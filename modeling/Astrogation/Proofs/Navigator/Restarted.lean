import Astrogation.Proofs.Document.Printed
import Astrogation.Proofs.Navigator.Placed
import Astrogation.Proofs.Navigator.Stored
import Astrogation.Proofs.Storage.Saved

/-!
# Restarts

The configuration is kept in a file. Along a run in which only finite coordinates are reported
and whatever is given to the store is saved, all configurations which are written are placed. So
their texts can be read, and a service which is started anew finds the last one that was written
(`Session.restarts`). It is the one that was published last, unless a look-up crashed on the way;
only distances along routes which are not finite are missing from it.
-/

namespace Astrogation

/-- A configuration which has been saved is loaded as it is read back. -/
theorem Config.load_of_save {p : Path} {c : Config} {f f' : Files} (tree : f.IsTree)
    (placed : c.IsPlaced) (reads : c.ReadsBack) (h : save p c f = (.ok (), f')) :
    f'.IsTree ∧ load p f' = .ok c.readBack := by
  obtain ⟨tree', found⟩ := read_of_save tree h
  refine ⟨tree', ?_⟩
  rw [load, found]
  exact Files.readDocument_eq_ok_iff.2
    ⟨c.text, Files.read_eq_ok_iff.2 found, ofJson?_text placed reads⟩

/-- A request of a navigator to whom only finite coordinates are reported, and who keeps the
    configuration in a file. -/
structure Request.Keeps (p : Path) (r : Request Files) : Prop where
  placed : r.navigator.IsPlaced
  store : r.navigator.store = Config.fileStore p

namespace Session

variable {p : Path} {initial : Config} {s t : Session Files} {requests : List (Request Files)}

/-- Whatever is given to the store by requests which are made one after the other is saved. -/
def Saves (p : Path) : Session Files → List (Request Files) → Prop
  | _, [] => True
  | s, r :: rest =>
    let t := (r.navigator.resolve r.query s).session
    (∀ c, t.saves = s.saves ++ [c] → (Config.save p c s.vault).1 = .ok ()) ∧ Saves p t rest

/-- The configuration that was written last, or else the one from the beginning. -/
def written (initial : Config) (s : Session Files) : Config := s.saves.getLast?.getD initial

/-- What has been written can be read, and what was written last is in the file. -/
structure Restartable (p : Path) (initial : Config) (s : Session Files) : Prop where
  tree : s.vault.IsTree
  placed : s.published.config.IsPlaced
  decodes : ∀ c ∈ s.saves, (Json.read? c.text).bind Config.ofJson? = some c.readBack
  loads : Config.load p s.vault = .ok (s.written initial).readBack

theorem exists_of_start {vault : Files} (started : start (Config.fileStore p) vault = .ok s) :
    ∃ config, Config.load p vault = .ok config ∧ s = { published := { config }, vault } := by
  rw [start] at started
  cases loaded : (Config.fileStore p).load vault with
  | error reason =>
    rw [loaded] at started
    cases started
  | ok config =>
    rw [loaded] at started
    exact ⟨config, loaded, (Except.ok.inj started).symm⟩

/-- A session which has been started can be started once more. -/
theorem restartable_start {vault : Files} (tree : vault.IsTree)
    (started : start (Config.fileStore p) vault = .ok s) :
    Restartable p s.published.config s := by
  obtain ⟨config, loaded, rfl⟩ := exists_of_start started
  have finite := Config.isFinite_of_load loaded
  refine ⟨tree, finite.isPlaced, fun _ none => absurd none List.not_mem_nil, ?_⟩
  exact loaded.trans (congrArg Except.ok finite.readBack.symm)

/-- A request leaves a session restartable. -/
theorem Restartable.resolve {r : Request Files} (h : Restartable p initial s) (keeps : r.Keeps p)
    (saves : ∀ c, (r.navigator.resolve r.query s).session.saves = s.saves ++ [c] →
      (Config.save p c s.vault).1 = .ok ())
    (reads : ∀ c ∈ (r.navigator.resolve r.query s).session.saves, c.ReadsBack) :
    Restartable p initial (r.navigator.resolve r.query s).session := by
  rcases r.navigator.resolve_stored r.query s with same | ⟨answer, stored⟩
  · refine ⟨same.vault ▸ h.tree, same.config ▸ h.placed, same.saves ▸ h.decodes, ?_⟩
    rw [same.vault, written, same.saves]
    exact h.loads
  · -- One configuration more has been written, and it is placed.
    let next := s.published.config.remember r.query answer.route
    have placed : next.IsPlaced :=
      h.placed.remember (h.placed.consult keeps.placed stored.consulted) r.query
    have reads : next.ReadsBack := reads next (by rw [stored.saves]; exact List.mem_concat_self)
    have vault := stored.vault
    rw [keeps.store] at vault
    have saved : Config.save p next s.vault =
        (.ok (), (r.navigator.resolve r.query s).session.vault) :=
      Prod.ext (saves next stored.saves) vault.symm
    obtain ⟨tree, loads⟩ := Config.load_of_save h.tree placed reads saved
    refine ⟨tree, ?_, ?_, ?_⟩
    · rcases stored.config with same | same
      · exact same ▸ h.placed
      · exact same ▸ placed
    · rw [stored.saves]
      exact List.forall_mem_append.2
        ⟨h.decodes, List.forall_mem_singleton.2 (Config.ofJson?_text placed reads)⟩
    · rw [written, stored.saves, List.getLast?_concat]
      exact loads

/-- What has been given to the store stays in the journal. -/
theorem saves_prefix_after (s : Session Files) (requests : List (Request Files)) :
    s.saves <+: (s.after requests).saves := by
  induction requests generalizing s with
  | nil => exact List.prefix_rfl
  | cons r rest ih =>
    have later := ih (r.navigator.resolve r.query s).session
    rcases r.navigator.resolve_stored r.query s with same | ⟨answer, stored⟩
    · exact same.saves ▸ later
    · exact (List.prefix_append _ _).trans (stored.saves ▸ later)

theorem Restartable.after (h : Restartable p initial s) (keeps : ∀ r ∈ requests, r.Keeps p)
    (saves : s.Saves p requests) (reads : ∀ c ∈ (s.after requests).saves, c.ReadsBack) :
    Restartable p initial (s.after requests) := by
  induction requests generalizing s with
  | nil => exact h
  | cons r rest ih =>
    obtain ⟨first, later⟩ := saves
    -- What the first request writes is among all that is written.
    have earlier := saves_prefix_after (r.navigator.resolve r.query s).session rest
    have next := h.resolve (keeps r List.mem_cons_self) first fun c hc =>
      reads c (earlier.subset hc)
    exact ih next (fun r' hr' => keeps r' (List.mem_cons_of_mem r hr')) later reads

/-- If the look-ups reply, what has been written last is what is published. -/
theorem written_after (same : s.written initial = s.published.config)
    (keeps : ∀ r ∈ requests, r.Keeps p) (looks : ∀ r ∈ requests, r.navigator.LooksUp) :
    (s.after requests).written initial = (s.after requests).published.config := by
  induction requests generalizing s with
  | nil => exact same
  | cons r rest ih =>
    refine ih ?_ (fun r' hr' => keeps r' (List.mem_cons_of_mem r hr'))
      fun r' hr' => looks r' (List.mem_cons_of_mem r hr')
    rcases r.navigator.resolve_stored r.query s with kept | ⟨answer, stored⟩
    · rw [written, kept.saves, kept.config]
      exact same
    · have replies : (r.navigator.store.save (s.published.config.remember r.query answer.route)
          s.vault).1.Replies := by
        rw [(keeps r List.mem_cons_self).store]
        exact ⟨_, rfl⟩
      rw [written, stored.saves, List.getLast?_concat,
        stored.announced replies (looks r List.mem_cons_self)]
      rfl

/-- Whatever configuration a session is started with from a file: after a run of the built-in
    resolvers in which only coordinates are reported that are finite or absent, and in which all
    saves succeed, every configuration that was written can be read, and a new session can be
    started. It has the configuration that was written last, or else the one from the beginning;
    and this is the one that is published, if the look-ups reply which precede the publication.
    Of the configuration only those distances along its routes are missing that are not finite.

    What is written has to be read as the numbers that were written. -/
theorem restarts {vault : Files} (tree : vault.IsTree)
    (started : start (Config.fileStore p) vault = .ok s) (keeps : ∀ r ∈ requests, r.Keeps p)
    (saves : s.Saves p requests) (reads : ∀ c ∈ (s.after requests).saves, c.ReadsBack) :
    let final := s.after requests
    (∀ c ∈ final.saves, (Json.read? c.text).bind Config.ofJson? = some c.readBack) ∧
    ∃ restarted, start (Config.fileStore p) final.vault = .ok restarted ∧
      restarted.published.config = (final.written s.published.config).readBack ∧
      ((∀ r ∈ requests, r.navigator.LooksUp) →
        restarted.published.config = final.published.config.readBack) := by
  intro final
  have restartable := (restartable_start tree started).after keeps saves reads
  refine ⟨restartable.decodes, { published := { config := _ }, vault := final.vault }, ?_, rfl, ?_⟩
  · rw [start, show (Config.fileStore p).load final.vault = _ from restartable.loads]
    rfl
  · intro looks
    have same : s.written s.published.config = s.published.config := by
      obtain ⟨config, -, rfl⟩ := exists_of_start started
      rfl
    exact congrArg Config.readBack (written_after same keeps looks)

end Session

namespace Chart

/-- A place from which the distance to Sol is too large for a number. -/
def rim : Position := ⟨1.5e308, 0, 0⟩

/-- Where the configuration is kept. -/
def configPath : Path := { absolute := false, names := ["navigation.json"], isDirectory := false }

/-- A query of a traveller who is there. -/
def fromRim (query : Query) : Request Files where
  navigator :=
    { atlas := frontier.atlas
      traveller := TravellerState.traveller
        { system := some { systemName := "Rim", coordinates := rim.coordinates } }
      store := Config.fileStore configPath }
  query

theorem finite_frontier : ∀ s ∈ frontier.systems, Floating.IsFinite s.position := by
  have finite : ∀ s ∈ frontier.systems,
      s.position.x.isFinite ∧ s.position.y.isFinite ∧ s.position.z.isFinite := by decide +kernel
  exact fun s hs => ⟨(finite s hs).1, (finite s hs).2.1, (finite s hs).2.2⟩

/-- A service which has plotted a route from there to Sol is started anew: of the route the
    distances are missing which are infinite. -/
theorem restarts_at_rim :
    let s : Session Files := { published := {}, vault := {} }
    let requests := [fromRim { type := .set, arg0 := some "Sol" }]
    let final := s.after requests
    let travelled (config : Config) := config.plottedRoute.map (·.waypoints.map (·.travelled))
    ({} : Files).IsTree ∧ Session.start (Config.fileStore configPath) {} = .ok s ∧
      (∀ r ∈ requests, r.Keeps configPath) ∧ s.Saves configPath requests ∧
      (∀ c ∈ final.saves, c.ReadsBack) ∧
      (∃ restarted, Session.start (Config.fileStore configPath) final.vault = .ok restarted ∧
        restarted.published.config = final.published.config.readBack) ∧
      travelled final.published.config = some [some 0, some (Float.ofBits 0x7FF0000000000000)] ∧
      travelled final.published.config.readBack = some [some 0, none] := by
  intro s requests final travelled
  have tree : ({} : Files).IsTree := by
    refine ⟨rfl, fun place below above here => ?_⟩
    cases below with
    | nil => rw [List.prefix_nil.1 above, Files.node?_nil]
    | cons name rest => cases here
  have started : Session.start (Config.fileStore configPath) {} = .ok s := rfl
  have keeps : ∀ r ∈ requests, r.Keeps configPath := by
    refine List.forall_mem_singleton.2 ⟨⟨rfl, isPlaced_atlas finite_frontier, fun w h => ?_⟩, rfl⟩
    rw [← Option.some.inj (Call.reply.inj h)]
    exact rim.isFinite_coordinates ⟨by decide +kernel, by decide +kernel, by decide +kernel⟩
  have saves : s.Saves configPath requests := ⟨fun c _ => rfl, trivial⟩
  have reads : ∀ c ∈ final.saves, c.ReadsBack := by decide +kernel
  obtain ⟨-, restarted, again, -, published⟩ :=
    Session.restarts tree started keeps saves reads
  have looks : ∀ r ∈ requests, r.navigator.LooksUp :=
    List.forall_mem_singleton.2 ⟨fun _ => ⟨_, rfl⟩, fun _ => ⟨_, rfl⟩⟩
  refine ⟨tree, started, keeps, saves, reads, ⟨restarted, again, published looks⟩, ?_, ?_⟩
  · decide +kernel
  · decide +kernel

end Chart

end Astrogation
