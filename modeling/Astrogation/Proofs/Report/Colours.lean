import Astrogation.Proofs.Report.Separators
import Mathlib.Data.List.TakeWhile

/-!
# Colours

A report is put together from pieces, and a palette shows the styles among them as codes of a
terminal. Each code is an escape character with what follows it up to the next `m` (`IsCode`), so
that none of them begins inside another or goes on as another (`IsCode.eq_of_begins`). Codes are
deleted from a text where they begin (`deleteCodes`).

In pieces whose texts have no escape character, a code stands only where a style is shown. To
delete codes from what a palette shows is therefore to leave them out of the palette
(`deleteCodes_showPieces`). An answer whose names have no escape character is put together from
such pieces (`uncoded_pieces`); without the codes of all styles, its text is the one without
colours (`colours_deleted`).
-/

namespace Astrogation.Report

/-! ## Codes -/

/-- An escape character, and what follows it up to the first `m`. -/
def IsCode (code : List Char) : Prop :=
  ∃ parameters, code = '\x1b' :: (parameters ++ ['m']) ∧ '\x1b' ∉ parameters ∧ 'm' ∉ parameters

/-- Characters without the codes among them. Where a code begins, the reading goes on after it. -/
def deleteFrom (codes : List (List Char)) : List Char → List Char
  | [] => []
  | c :: cs =>
    match codes.find? fun code => !code.isEmpty && code.isPrefixOf (c :: cs) with
    | some code => deleteFrom codes (cs.drop (code.length - 1))
    | none => c :: deleteFrom codes cs
termination_by cs => cs.length
decreasing_by
  · rw [List.length_drop, List.length_cons]
    omega
  · rw [List.length_cons]
    omega

/-- A text without the codes in it. -/
def deleteCodes (codes : List String) (text : String) : String :=
  String.ofList (deleteFrom (codes.map (·.toList)) text.toList)

variable {code code' rest cs : List Char} {codes : List (List Char)} {c : Char}

/-- Where a code begins, no other code does. -/
theorem IsCode.eq_of_begins (h : IsCode code) (h' : IsCode code')
    (begins : code <+: code' ++ rest) : code = code' := by
  obtain ⟨p, rfl, -, hp⟩ := h
  obtain ⟨q, rfl, -, hq⟩ := h'
  obtain ⟨tail, same⟩ := begins
  have upTo (p rest : List Char) (hp : 'm' ∉ p) :
      (p ++ ['m'] ++ rest).takeWhile (fun c => c != 'm') = p := by
    have inside : ∀ c ∈ p, (c != 'm') = true := fun c hc =>
      bne_iff_ne.2 (ne_of_mem_of_not_mem hc hp)
    rw [List.append_assoc, List.takeWhile_append_of_pos inside]
    exact List.append_nil p
  obtain rfl : p = q := by
    rw [← upTo p tail hp, ← upTo q rest hq]
    exact congrArg _ (List.cons.inj same).2
  rfl

/-- A character stays if no code begins with it. -/
theorem deleteFrom_cons_of_not_begins (h : ∀ code ∈ codes, ¬ code <+: c :: cs) :
    deleteFrom codes (c :: cs) = c :: deleteFrom codes cs := by
  have none : (codes.find? fun code => !code.isEmpty && code.isPrefixOf (c :: cs)) = none :=
    List.find?_eq_none.2 fun code hc begins => h code hc <|
      List.isPrefixOf_iff_prefix.1 (Bool.and_eq_true_iff.1 begins).2
  rw [deleteFrom, none]

/-- Where a code begins that is to be deleted, it is left out. -/
theorem deleteFrom_append_of_mem (h : ∀ code ∈ codes, IsCode code) (hc : code ∈ codes) :
    deleteFrom codes (code ++ rest) = deleteFrom codes rest := by
  have hcode := h code hc
  obtain ⟨c, cs, rfl⟩ : ∃ c cs, code = c :: cs := by
    obtain ⟨p, rfl, -⟩ := hcode
    exact ⟨_, _, rfl⟩
  -- The code that is found here is no other than this one.
  have found : (codes.find? fun code => !code.isEmpty && code.isPrefixOf (c :: (cs ++ rest))) =
      some (c :: cs) := by
    cases first : codes.find? _ with
    | none =>
      simpa using List.find?_eq_none.1 first _ hc
    | some other =>
      have begins := List.find?_some first
      have prefixed := List.isPrefixOf_iff_prefix.1 (Bool.and_eq_true_iff.1 begins).2
      exact congrArg some <|
        (h other (List.mem_of_find?_eq_some first)).eq_of_begins hcode prefixed
  rw [List.cons_append, deleteFrom, found]
  dsimp only
  rw [List.length_cons, Nat.add_sub_cancel, List.drop_left]

/-- Where no code begins, nothing is deleted. -/
theorem deleteFrom_append_of_escapeFree (h : ∀ code ∈ codes, IsCode code) (hcs : '\x1b' ∉ cs) :
    deleteFrom codes (cs ++ rest) = cs ++ deleteFrom codes rest := by
  induction cs with
  | nil => rfl
  | cons c cs ih =>
    rw [List.mem_cons, not_or] at hcs
    obtain ⟨hc, hcs⟩ := hcs
    rw [List.cons_append, deleteFrom_cons_of_not_begins fun code hcode begins => hc ?_, ih hcs,
      List.cons_append]
    obtain ⟨p, rfl, -⟩ := h code hcode
    exact (List.cons_prefix_cons.1 begins).1

/-- A code that is not to be deleted stays. -/
theorem deleteFrom_append_of_not_mem (h : ∀ code ∈ codes, IsCode code) (hcode : IsCode code)
    (hc : code ∉ codes) : deleteFrom codes (code ++ rest) = code ++ deleteFrom codes rest := by
  have other : ∀ code' ∈ codes, ¬ code' <+: code ++ rest := fun code' hc' begins =>
    hc ((h code' hc').eq_of_begins hcode begins ▸ hc')
  obtain ⟨p, rfl, hp, -⟩ := hcode
  have tail : '\x1b' ∉ p ++ ['m'] := by simpa using hp
  rw [List.cons_append] at other ⊢
  rw [deleteFrom_cons_of_not_begins other, deleteFrom_append_of_escapeFree h tail,
    List.cons_append]

/-! ## Palettes -/

/-- A palette which shows each style by a code or by nothing. -/
def Palette.IsCoded (palette : Palette) : Prop := ∀ s, palette s = "" ∨ IsCode (palette s).toList

/-- A palette without some codes. -/
def Palette.without (palette : Palette) (codes : List String) : Palette :=
  fun s => if palette s ∈ codes then "" else palette s

/-- A text in which no code begins. -/
def EscapeFree (text : String) : Prop := '\x1b' ∉ text.toList

/-- Pieces in whose texts no code begins. -/
def Uncoded (pieces : List Piece) : Prop := ∀ text, .text text ∈ pieces → EscapeFree text

/-- Each style is shown by a code. -/
theorem isCode_coloured (s : Style) : IsCode (coloured s).toList := by
  have isCode (parameters : String) (hescape : '\x1b' ∉ parameters.toList)
      (hm : 'm' ∉ parameters.toList) : IsCode (escape parameters).toList :=
    ⟨'[' :: parameters.toList, by simp [escape], by simpa using hescape, by simpa using hm⟩
  cases s <;> exact isCode _ (by decide) (by decide)

theorem isCoded_coloured : Palette.IsCoded coloured := fun s => .inr (isCode_coloured s)

section Pieces

variable {palette : Palette} {pieces ps qs : List Piece} {text : String} {s : Style}

theorem Palette.IsCoded.without (h : palette.IsCoded) (codes : List String) :
    (palette.without codes).IsCoded := by
  intro s
  rw [Palette.without]
  split
  · exact .inl rfl
  · exact h s

/-- Codes are left out of a palette together or one after the other. -/
theorem Palette.without_without (palette : Palette) (codes codes' : List String) :
    (palette.without codes).without codes' = palette.without (codes ++ codes') := by
  funext s
  by_cases h : palette s ∈ codes <;> simp [without, h]

/-- Without the codes of all styles, no colours are left. -/
theorem coloured_without {order : List Style} (all : ∀ s, s ∈ order) :
    Palette.without coloured (order.map coloured) = plain := by
  funext s
  exact if_pos (List.mem_map_of_mem (all s))

@[simp]
theorem uncoded_nil : Uncoded [] := fun _ h => nomatch h

@[simp]
theorem uncoded_text_cons : Uncoded (.text text :: pieces) ↔ EscapeFree text ∧ Uncoded pieces := by
  simp [Uncoded]

@[simp]
theorem uncoded_style_cons : Uncoded (.style s :: pieces) ↔ Uncoded pieces := by
  simp [Uncoded]

@[simp]
theorem uncoded_append : Uncoded (ps ++ qs) ↔ Uncoded ps ∧ Uncoded qs := by
  simp [Uncoded, or_imp, forall_and]

/-- Pieces are free of codes if those of each part are. -/
theorem uncoded_flatMap {ι : Type} {xs : List ι} {f : ι → List Piece} :
    Uncoded (xs.flatMap f) ↔ ∀ x ∈ xs, Uncoded (f x) := by
  simp only [Uncoded, List.mem_flatMap]
  exact ⟨fun h x hx text ht => h text ⟨x, hx, ht⟩, fun h text ⟨x, hx, ht⟩ => h x hx text ht⟩

@[simp]
theorem uncoded_styled : Uncoded (styled s text) ↔ EscapeFree text := by
  simp [styled]

/-- To delete codes from what a palette shows is to leave them out of the palette. -/
theorem deleteCodes_showPieces {codes : List String} (hpalette : palette.IsCoded)
    (hcodes : ∀ code ∈ codes, IsCode code.toList) (hpieces : Uncoded pieces) :
    deleteCodes codes (showPieces palette pieces) = showPieces (palette.without codes) pieces := by
  have areCodes : ∀ code ∈ codes.map (·.toList), IsCode code := List.forall_mem_map.2 hcodes
  rw [← String.toList_inj, deleteCodes, String.toList_ofList, showPieces, showPieces]
  induction pieces with
  | nil => rw [List.map_nil, List.map_nil, String.join_nil, String.toList_empty, deleteFrom]
  | cons piece pieces ih =>
    rw [List.map_cons, List.map_cons, String.join_cons, String.join_cons, String.toList_append,
      String.toList_append]
    cases piece with
    | text text =>
      obtain ⟨free, hpieces⟩ := uncoded_text_cons.1 hpieces
      rw [Piece.show, Piece.show, deleteFrom_append_of_escapeFree areCodes free, ih hpieces]
    | style s =>
      have rest := ih (uncoded_style_cons.1 hpieces)
      rw [Piece.show, Piece.show, Palette.without]
      by_cases deleted : palette s ∈ codes
      · rw [if_pos deleted, deleteFrom_append_of_mem areCodes (List.mem_map_of_mem deleted), rest]
        rfl
      · rw [if_neg deleted]
        rcases hpalette s with nothing | code
        · rw [nothing]
          exact rest
        · have kept : (palette s).toList ∉ codes.map (·.toList) := fun h => by
            obtain ⟨code, hcode, same⟩ := List.mem_map.1 h
            exact deleted (String.toList_inj.1 same ▸ hcode)
          rw [deleteFrom_append_of_not_mem areCodes code kept, rest]

/-- It does not matter whether codes are deleted together or one after the other. -/
theorem foldl_deleteCodes_showPieces (order : List Style) (hpalette : palette.IsCoded)
    (hpieces : Uncoded pieces) :
    order.foldl (fun text s => deleteCodes [coloured s] text) (showPieces palette pieces) =
      showPieces (palette.without (order.map coloured)) pieces := by
  induction order generalizing palette with
  | nil => rfl
  | cons s order ih =>
    have isCode : ∀ code ∈ [coloured s], IsCode code.toList :=
      List.forall_mem_singleton.2 (isCode_coloured s)
    rw [List.foldl_cons, deleteCodes_showPieces hpalette isCode hpieces, ih (hpalette.without _),
      Palette.without_without]
    rfl

end Pieces

/-! ## Texts without codes -/

variable {text : String} {width : Nat}

instance (text : String) : Decidable (EscapeFree text) :=
  inferInstanceAs (Decidable ('\x1b' ∉ text.toList))

@[simp]
theorem escapeFree_append {t u : String} : EscapeFree (t ++ u) ↔ EscapeFree t ∧ EscapeFree u := by
  simp [EscapeFree]

@[simp]
theorem escapeFree_ofList {cs : List Char} : EscapeFree (String.ofList cs) ↔ '\x1b' ∉ cs := by
  rw [EscapeFree, String.toList_ofList]

theorem not_mem_groupDigits {cs : List Char} (h : '\x1b' ∉ cs) : '\x1b' ∉ groupDigits cs := by
  induction cs with
  | nil => exact h
  | cons c cs ih =>
    rw [List.mem_cons, not_or] at h
    rw [groupDigits]
    split <;> simp [h.1, ih h.2]

/-- Numbers are written by digits and commas, so no code begins in them. -/
@[simp]
theorem escapeFree_withSeparators (n : Nat) : EscapeFree (withSeparators n) :=
  escapeFree_ofList.2 (not_mem_groupDigits (not_mem_toDigits rfl n))

@[simp]
theorem escapeFree_padRight : EscapeFree (padRight width text) ↔ EscapeFree text := by
  rw [padRight, escapeFree_ofList]
  simp [EscapeFree]

@[simp]
theorem escapeFree_padLeft : EscapeFree (padLeft width text) ↔ EscapeFree text := by
  rw [padLeft, escapeFree_ofList]
  simp [EscapeFree]

@[simp]
theorem escapeFree_distanceText (d : Float) : EscapeFree (distanceText d) := by
  have padded (width n : Nat) : '\x1b' ∉ Decimal.paddedDigits width n := by
    simp [Decimal.paddedDigits]
  have placed (units : Nat) : EscapeFree (Decimal.placed 2 units) := by
    rw [Decimal.placed, escapeFree_ofList]
    simp [padded]
  rw [distanceText, Decimal.fixed]
  split
  · dsimp only
    split
    · exact escapeFree_append.2 ⟨by decide, placed _⟩
    · exact placed _
  · split_ifs <;> decide

@[simp]
theorem escapeFree_repr (i : Int) : EscapeFree i.repr := by
  rw [Int.repr_eq_if]
  split_ifs <;> simp [EscapeFree]

theorem escapeFree_intercalate {separator : String} {texts : List String}
    (hseparator : EscapeFree separator) (h : ∀ text ∈ texts, EscapeFree text) :
    EscapeFree (separator.intercalate texts) := by
  induction texts with
  | nil => exact List.not_mem_nil
  | cons text texts ih =>
    obtain ⟨htext, htexts⟩ := List.forall_mem_cons.1 h
    by_cases last : texts = []
    · rw [last, String.intercalate_singleton]
      exact htext
    · rw [String.intercalate_cons_of_ne_nil last]
      simp [htext, hseparator, ih htexts]

@[simp]
theorem escapeFree_name (type : QueryType) : EscapeFree type.name := by
  cases type <;> decide

@[simp]
theorem escapeFree_countLabel (type : QueryType) : EscapeFree (countLabel type) := by
  cases type <;> decide

@[simp]
theorem escapeFree_word (tag : Tag) : EscapeFree tag.word := by
  cases tag <;> decide

/-! ## Reports without codes -/

/-- An answer whose names have no escape character. -/
structure NamesEscapeFree (a : Answer) : Prop where
  system : ∀ name ∈ a.system, EscapeFree name
  station : ∀ name ∈ a.station, EscapeFree name
  stops : ∀ w ∈ a.route.waypoints, EscapeFree w.systemName
  stations : ∀ w ∈ a.route.waypoints, ∀ name ∈ w.stationName, EscapeFree name

variable {w : Waypoint} {ws : List Waypoint} {a : Answer}

/-- The target of an answer is named by its system and its station. -/
theorem uncoded_targetPieces (h : NamesEscapeFree a) : Uncoded (targetPieces a) := by
  rw [targetPieces]
  split
  · next system station =>
    have separator : EscapeFree " / " := by decide
    simp [h.system _ system, h.station _ station, separator]
  · next system _ => simp [h.system _ system]
  · simp only [uncoded_text_cons, uncoded_nil, and_true]
    decide

theorem uncoded_headPieces (h : NamesEscapeFree a) : Uncoded (headPieces a) := by
  have literal : EscapeFree ": " ∧ EscapeFree " (" ∧ EscapeFree " " ∧ EscapeFree ")\n" := by decide
  simp [headPieces, uncoded_targetPieces h, literal]

theorem uncoded_notePieces (h : ∀ name ∈ w.stationName, EscapeFree name) :
    Uncoded (notePieces w) := by
  have literal : EscapeFree "  " ∧ EscapeFree "missions " ∧ EscapeFree "," := by decide
  obtain ⟨blank, missions, comma⟩ := literal
  have free : ∀ note ∈ notes w, Uncoded note := by
    rw [notes]
    simp only [List.forall_mem_append]
    refine ⟨⟨⟨?_, ?_⟩, ?_⟩, ?_⟩
    · split
      · exact List.forall_mem_nil _
      · refine List.forall_mem_singleton.2 (uncoded_styled.2 (escapeFree_append.2 ⟨missions, ?_⟩))
        exact escapeFree_intercalate comma (by simp)
    · simpa using h
    · split
      · exact List.forall_mem_singleton.2 (uncoded_text_cons.2 ⟨by decide, uncoded_nil⟩)
      · exact List.forall_mem_nil _
    · split
      · exact List.forall_mem_singleton.2 (uncoded_text_cons.2 ⟨by decide, uncoded_nil⟩)
      · exact List.forall_mem_nil _
  rw [notePieces, uncoded_flatMap]
  exact fun note hnote => uncoded_text_cons.2 ⟨blank, free note hnote⟩

theorem uncoded_stopPieces (tag : Tag) (hname : EscapeFree w.systemName)
    (hstation : ∀ name ∈ w.stationName, EscapeFree name) : Uncoded (stopPieces tag w) := by
  have literal : EscapeFree "  " ∧ EscapeFree " " ∧ EscapeFree " ly" ∧ EscapeFree "\n" := by decide
  simp [stopPieces, uncoded_notePieces hstation, hname, literal]

/-- Every stop is shown by its names, and by words and numbers which have no codes. -/
theorem uncoded_stopsPieces (unvisited : Bool) (hnames : ∀ w ∈ ws, EscapeFree w.systemName)
    (hstations : ∀ w ∈ ws, ∀ name ∈ w.stationName, EscapeFree name) :
    Uncoded (stopsPieces unvisited ws) := by
  induction ws generalizing unvisited with
  | nil => exact uncoded_nil
  | cons w ws ih =>
    obtain ⟨hname, hnames⟩ := List.forall_mem_cons.1 hnames
    obtain ⟨hstation, hstations⟩ := List.forall_mem_cons.1 hstations
    rw [stopsPieces]
    exact uncoded_append.2 ⟨uncoded_stopPieces _ hname hstation, ih _ hnames hstations⟩

theorem uncoded_lengthPieces {label : String} (h : EscapeFree label) (d : Float) :
    Uncoded (lengthPieces label d) := by
  have literal : EscapeFree ": " ∧ EscapeFree " ly" ∧ EscapeFree "\n" := by decide
  simp [lengthPieces, h, literal]

/-- If the names of an answer have no escape character, no piece of its text has one. -/
theorem uncoded_pieces (h : NamesEscapeFree a) : Uncoded (pieces a) := by
  have stops : Uncoded (stopsPieces false a.route.waypoints) :=
    uncoded_stopsPieces false h.stops h.stations
  have total : Uncoded
      (if 1 < a.route.size then lengthPieces "Total" a.route.totalDistance else []) := by
    split
    · exact uncoded_lengthPieces (by decide) _
    · exact uncoded_nil
  have circuit : Uncoded ((a.circuitLength.map (lengthPieces "Circuit")).getD []) := by
    cases a.circuitLength with
    | none => exact uncoded_nil
    | some d => exact uncoded_lengthPieces (by decide) d
  simp [pieces, uncoded_headPieces h, stops, total, circuit]

/-- What is shown without colours has no code in it. -/
theorem escapeFree_showPieces {pieces : List Piece} (h : Uncoded pieces) :
    EscapeFree (showPieces plain pieces) := by
  induction pieces with
  | nil => exact List.not_mem_nil
  | cons piece pieces ih =>
    rw [showPieces, List.map_cons, String.join_cons, escapeFree_append]
    cases piece with
    | text text =>
      obtain ⟨free, h⟩ := uncoded_text_cons.1 h
      exact ⟨free, ih h⟩
    | style s => exact ⟨List.not_mem_nil, ih (uncoded_style_cons.1 h)⟩

/-- The text of an answer whose names have no escape character is, without the codes of all
    styles, the one without colours, and in that no code is left. The codes may be deleted
    together, or one after the other in any order. -/
theorem colours_deleted (a : Answer) (names : NamesEscapeFree a) (order : List Style)
    (all : ∀ s, s ∈ order) :
    deleteCodes (order.map coloured) (render .text coloured a) = render .text plain a ∧
    order.foldl (fun text s => deleteCodes [coloured s] text) (render .text coloured a) =
      render .text plain a ∧
    EscapeFree (render .text plain a) := by
  have free := uncoded_pieces names
  have areCodes : ∀ code ∈ order.map coloured, IsCode code.toList :=
    List.forall_mem_map.2 fun s _ => isCode_coloured s
  simp only [render]
  rw [deleteCodes_showPieces isCoded_coloured areCodes free,
    foldl_deleteCodes_showPieces order isCoded_coloured free, coloured_without all]
  exact ⟨rfl, rfl, escapeFree_showPieces free⟩

/-- A visit to a station near a neutron star, for two missions. -/
def errand : Answer :=
  .ofRoute .nearest
    { waypoints :=
        [{ systemName := "Sol", visited := true, isScoopable := true, travelled := some 0 },
          { systemName := "Jackson's Lighthouse", stationName := some "Orbis",
            missionIds := [7, -9], hasNeutronStar := true, travelled := some 5 }] } 2

/-- All styles. -/
def styles : List Style := [.station, .mission, .dim, .title, .goal, .stop, .next, .here, .reset]

/-- The errand is shown in six colours. Without their codes its text is the plain one. -/
theorem colours_deleted_errand :
    NamesEscapeFree errand ∧ (∀ s, s ∈ styles) ∧
      deleteCodes (styles.map coloured) (render .text coloured errand) =
        render .text plain errand ∧
      styles.foldl (fun text s => deleteCodes [coloured s] text) (render .text coloured errand) =
        render .text plain errand ∧
      EscapeFree (render .text plain errand) ∧
      render .text plain errand = "nearest: Jackson's Lighthouse / Orbis (2 missions)\n" ++
        "  HERE Sol                               0.00 ly  scoopable\n" ++
        "  GOAL Jackson's Lighthouse              5.00 ly  missions 7,-9  Orbis  neutron\n" ++
        "Total: 0.00 ly\n" := by
  have names : NamesEscapeFree errand := by
    constructor <;> decide
  have all : ∀ s, s ∈ styles := by
    intro s
    cases s <;> decide
  obtain ⟨together, inTurn, free⟩ := colours_deleted errand names styles all
  exact ⟨names, all, together, inTurn, free, by decide +kernel⟩

end Astrogation.Report
