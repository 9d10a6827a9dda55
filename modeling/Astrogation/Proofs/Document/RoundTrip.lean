import Astrogation.Proofs.Document.Routes

/-!
# Documents read back what was written

A value whose numbers are finite is read back from its document as it was, also if the members
of the document have been rearranged and others have been added which are no fields. And a
value that is read from any document is read back from the document that it is written as
(`documents_round_trip`).
-/

namespace Astrogation

open Json

/-- A kind of documents from which the values are read back that were written. -/
structure RoundTrips {α : Type} (fields : List String) (IsFinite : α → Prop) (toJson : α → Json)
    (ofJson? : Json → Option α) : Prop where
  /-- The members may be rearranged, among others which are no fields. -/
  rearranged : ∀ a members, IsFinite a → Rearranged fields (toJson a).plain members →
    ofJson? (object members) = some a
  /-- Once more, after a value has been read from a document. -/
  again : ∀ value a, value.isProper = true → ofJson? value = some a →
    ofJson? (toJson a).plain = some a

/-- Documents which may be rearranged are read back once more, provided that what is read from any
    document has finite numbers. -/
theorem RoundTrips.of_rearranged {α : Type} {fields : List String} {IsFinite : α → Prop}
    {toJson : α → Json} {ofJson? : Json → Option α} (yields : Yields ofJson? IsFinite)
    (isObject : ∀ a, ∃ own, toJson a = object own)
    (rearranged : ∀ a members, IsFinite a → Rearranged fields (toJson a).plain members →
      ofJson? (object members) = some a) :
    RoundTrips fields IsFinite toJson ofJson? where
  rearranged := rearranged
  again value a proper read := by
    obtain ⟨own, same⟩ := isObject a
    have h := rearranged a (plainMembers own) (yields value a proper read)
    rw [same] at h ⊢
    exact h (rearranged_self fields _)

/-! ## Queries -/

namespace Query

/-- The fields of a query and the values that are written for them. -/
def entries (q : Query) : List (String × Option Json) :=
  [("query_type", some q.type.toJson), ("arg0", q.arg0.map string), ("arg1", q.arg1.map string),
    ("numeric", q.numeric.map float), ("flag", q.flag.map bool), ("from_ui", some (bool q.fromUi))]

/-- The fields of a query. -/
def fields : List String := ["query_type", "arg0", "arg1", "numeric", "flag", "from_ui"]

theorem nodup_fields : fields.Nodup := by decide

/-- A query whose number, if it has one, is finite. -/
def IsFinite (q : Query) : Prop := ∀ x, q.numeric = some x → x.isFinite

/-- A query is written as the members for those of its fields that have a value. -/
theorem toJson_eq (q : Query) : q.toJson = object (written q.entries) := by
  simp only [toJson, entries, written_cons_some, written_cons_map, written_nil, List.append_assoc,
    List.cons_append]

/-- A query is read from its document, also after the members have been rearranged. -/
theorem ofJson?_rearranged {q : Query} {m : List (String × Json)} (finite : q.IsFinite)
    (h : Rearranged fields q.toJson.plain m) : ofJson? (object m) = some q := by
  rw [toJson_eq] at h
  have given := h.gives_plain nodup_fields rfl
  simp only [entries, plainEntries, List.map_cons, List.map_nil, gives_cons, gives_nil,
    Option.map_some, Option.map_map, plain_bool] at given
  obtain ⟨type, arg0, arg1, numeric, flag, fromUi, -⟩ := given
  have type : required? m "query_type" QueryType.ofJson? = some q.type :=
    (required?_of_field? type).trans q.type.ofJson?_toJson
  have arg0 : optional? m "arg0" toString? = some q.arg0 :=
    optional?_of_reads arg0 rfl fun _ => rfl
  have arg1 : optional? m "arg1" toString? = some q.arg1 :=
    optional?_of_reads arg1 rfl fun _ => rfl
  have numeric := optional?_finite numeric
  have flag : optional? m "flag" toBool? = some q.flag := optional?_of_reads flag rfl fun _ => rfl
  rw [filter_isFinite finite] at numeric
  simp only [ofJson?, record?, Option.bind_eq_bind, Option.bind_some, type, arg0, arg1, numeric,
    flag, defaulted?_of_field? fromUi, toBool?]

/-- The number of a query is finite if it was read. -/
theorem yields_ofJson? : Yields ofJson? IsFinite := by
  intro value q proper h
  simp only [ofJson?, Option.bind_eq_bind, Option.bind_eq_some_iff, Option.some.injEq] at h
  obtain ⟨m, hm, type, -, arg0, -, arg1, -, numeric, hnumeric, flag, -, fromUi, -, rfl⟩ := h
  exact yields_toFloat?.optional (allMembersProper_of_record? proper hm) hnumeric

end Query

/-! ## Stations and searches -/

namespace Station

/-- The fields of a station and the values that are written for them. -/
def entries (s : Station) : List (String × Option Json) :=
  [("name", some (string s.name)), ("market_id", s.marketId.map ofUInt64),
    ("system_name", some (string s.systemName)), ("system_address", s.address.map ofUInt64),
    ("distance_from_arrival_ls", some (float s.arrivalDistance)),
    ("max_pad", some s.maxPad.toJson), ("planetary", some (bool s.planetary)),
    ("services", some (array (s.services.map Service.toJson)))]

/-- The fields of a station. -/
def fields : List String :=
  ["name", "market_id", "system_name", "system_address", "distance_from_arrival_ls", "max_pad",
    "planetary", "services"]

theorem nodup_fields : fields.Nodup := by decide

/-- A station whose distance from the star of arrival is finite. -/
def IsFinite (s : Station) : Prop := s.arrivalDistance.isFinite

theorem toJson_eq (s : Station) : s.toJson = object (written s.entries) := by
  simp only [toJson, entries, written_cons_some, written_cons_map, written_nil, List.append_assoc,
    List.cons_append]

/-- A station is read from its document, also after the members have been rearranged. -/
theorem ofJson?_rearranged {s : Station} {m : List (String × Json)} (finite : s.IsFinite)
    (h : Rearranged fields s.toJson.plain m) : ofJson? (object m) = some s := by
  rw [toJson_eq] at h
  have given := h.gives_plain nodup_fields rfl
  simp only [entries, plainEntries, List.map_cons, List.map_nil, gives_cons, gives_nil,
    Option.map_some, Option.map_map, plain_string, plain_bool, plain_float finite, plain_array,
    List.map_map] at given
  obtain ⟨name, market, system, address, distance, pad, planetary, services, -⟩ := given
  have market := optional?_of_reads market rfl toUInt64?_ofUInt64
  have address := optional?_of_reads address rfl toUInt64?_ofUInt64
  have pad : required? m "max_pad" Pad.ofJson? = some s.maxPad :=
    (required?_of_field? pad).trans s.maxPad.ofJson?_toJson
  have services : defaulted? m "services" [] (listOf? Service.ofJson?) = some s.services :=
    (defaulted?_of_field? services).trans
      ((listOf?_map fun service _ => service.ofJson?_toJson).trans
        (congrArg some (List.map_id s.services)))
  simp only [ofJson?, record?, Option.bind_eq_bind, Option.bind_some, required?_of_field? name,
    market, required?_of_field? system, address, required?_of_field? distance, pad,
    defaulted?_of_field? planetary, services, toString?, toFloat?, toBool?]

/-- The distance of a station from the star is finite if it was read. -/
theorem yields_ofJson? : Yields ofJson? IsFinite := by
  intro value s proper h
  simp only [ofJson?, Option.bind_eq_bind, Option.bind_eq_some_iff, Option.some.injEq] at h
  obtain ⟨m, hm, name, -, market, -, system, -, address, -, distance, hdistance, pad, -, planetary,
    -, services, -, rfl⟩ := h
  exact yields_toFloat?.required (allMembersProper_of_record? proper hm) hdistance

end Station

namespace SearchFilter

/-- The fields of a search and the values that are written for them. -/
def entries (f : SearchFilter) : List (String × Option Json) :=
  [("category", some f.category.toJson), ("max_radius_ly", f.maxRadius.map float),
    ("max_distance_from_arrival_ls", f.maxArrivalDistance.map float),
    ("landing_pad", f.pad.map Pad.toJson), ("prefer_orbital", some (bool f.preferOrbital))]

/-- The fields of a search. -/
def fields : List String :=
  ["category", "max_radius_ly", "max_distance_from_arrival_ls", "landing_pad", "prefer_orbital"]

theorem nodup_fields : fields.Nodup := by decide

/-- A search whose bounds, if it has any, are finite. -/
structure IsFinite (f : SearchFilter) : Prop where
  maxRadius : ∀ x, f.maxRadius = some x → x.isFinite
  maxArrivalDistance : ∀ x, f.maxArrivalDistance = some x → x.isFinite

theorem toJson_eq (f : SearchFilter) : f.toJson = object (written f.entries) := by
  simp only [toJson, entries, written_cons_some, written_cons_map, written_nil, List.append_assoc,
    List.cons_append]

/-- A search is read from its document, also after the members have been rearranged. -/
theorem ofJson?_rearranged {f : SearchFilter} {m : List (String × Json)} (finite : f.IsFinite)
    (h : Rearranged fields f.toJson.plain m) : ofJson? (object m) = some f := by
  rw [toJson_eq] at h
  have given := h.gives_plain nodup_fields rfl
  simp only [entries, plainEntries, List.map_cons, List.map_nil, gives_cons, gives_nil,
    Option.map_some, Option.map_map, plain_bool] at given
  obtain ⟨category, radius, distance, pad, orbital, -⟩ := given
  have category : required? m "category" SearchCategory.ofJson? = some f.category :=
    (required?_of_field? category).trans f.category.ofJson?_toJson
  have radius := optional?_finite radius
  have distance := optional?_finite distance
  have pad : optional? m "landing_pad" Pad.ofJson? = some f.pad :=
    optional?_of_reads pad rfl Pad.ofJson?_toJson
  rw [filter_isFinite finite.maxRadius] at radius
  rw [filter_isFinite finite.maxArrivalDistance] at distance
  simp only [ofJson?, record?, Option.bind_eq_bind, Option.bind_some, category, radius, distance,
    pad, defaulted?_of_field? orbital, toBool?]

/-- The bounds of a search are finite if it was read. -/
theorem yields_ofJson? : Yields ofJson? IsFinite := by
  intro value f proper h
  simp only [ofJson?, Option.bind_eq_bind, Option.bind_eq_some_iff, Option.some.injEq] at h
  obtain ⟨m, hm, category, -, radius, hradius, distance, hdistance, pad, -, orbital, -, rfl⟩ := h
  have proper := allMembersProper_of_record? proper hm
  exact ⟨yields_toFloat?.optional proper hradius, yields_toFloat?.optional proper hdistance⟩

end SearchFilter

/-! ## Travellers -/

namespace Ship

/-- The fields of a ship and the values that are written for them. -/
def entries (s : Ship) : List (String × Option Json) :=
  [("name", some (string s.name)), ("jump_range_ly", some (float s.jumpRange)),
    ("landing_pad", some s.pad.toJson)]

/-- The fields of a ship. -/
def fields : List String := ["name", "jump_range_ly", "landing_pad"]

theorem nodup_fields : fields.Nodup := by decide

/-- A ship which jumps a finite distance. -/
def IsFinite (s : Ship) : Prop := s.jumpRange.isFinite

theorem toJson_eq (s : Ship) : s.toJson = object (written s.entries) := rfl

/-- A ship is read from its document, also after the members have been rearranged. -/
theorem ofJson?_rearranged {s : Ship} {m : List (String × Json)} (finite : s.IsFinite)
    (h : Rearranged fields s.toJson.plain m) : ofJson? (object m) = some s := by
  rw [toJson_eq] at h
  have given := h.gives_plain nodup_fields rfl
  simp only [entries, plainEntries, List.map_cons, List.map_nil, gives_cons, gives_nil,
    Option.map_some, plain_string, plain_float finite] at given
  obtain ⟨name, jumpRange, pad, -⟩ := given
  have pad : required? m "landing_pad" Pad.ofJson? = some s.pad :=
    (required?_of_field? pad).trans s.pad.ofJson?_toJson
  simp only [ofJson?, record?, Option.bind_eq_bind, Option.bind_some, defaulted?_of_field? name,
    required?_of_field? jumpRange, pad, toString?, toFloat?]

/-- A ship which was read jumps a finite distance. -/
theorem yields_ofJson? : Yields ofJson? IsFinite := by
  intro value s proper h
  simp only [ofJson?, Option.bind_eq_bind, Option.bind_eq_some_iff, Option.some.injEq] at h
  obtain ⟨m, hm, name, -, jumpRange, hjumpRange, pad, -, rfl⟩ := h
  exact yields_toFloat?.required (allMembersProper_of_record? proper hm) hjumpRange

end Ship

namespace Carrier

/-- The fields of a fleet carrier and the values that are written for them. -/
def entries (c : Carrier) : List (String × Option Json) :=
  [("name", some (string c.name)), ("current_system", c.system.map string),
    ("used_capacity", some (ofNat c.usedCapacity.toNat))]

/-- The fields of a fleet carrier. -/
def fields : List String := ["name", "current_system", "used_capacity"]

theorem nodup_fields : fields.Nodup := by decide

theorem toJson_eq (c : Carrier) : c.toJson = object (written c.entries) := by
  simp only [toJson, entries, written_cons_some, written_cons_map, written_nil, List.cons_append]

/-- A fleet carrier is read from its document, also after the members have been rearranged. It has
    no numbers with places, so none can get lost. -/
theorem ofJson?_rearranged {c : Carrier} {m : List (String × Json)}
    (h : Rearranged fields c.toJson.plain m) : ofJson? (object m) = some c := by
  rw [toJson_eq] at h
  have given := h.gives_plain nodup_fields rfl
  simp only [entries, plainEntries, List.map_cons, List.map_nil, gives_cons, gives_nil,
    Option.map_some, Option.map_map, plain_string] at given
  obtain ⟨name, system, capacity, -⟩ := given
  have system : optional? m "current_system" toString? = some c.system :=
    optional?_of_reads system rfl fun _ => rfl
  have capacity : defaulted? m "used_capacity" 0 toUInt32? = some c.usedCapacity :=
    (defaulted?_of_field? capacity).trans (toUInt32?_ofNat c.usedCapacity)
  simp only [ofJson?, record?, Option.bind_eq_bind, Option.bind_some, defaulted?_of_field? name,
    system, capacity, toString?]

end Carrier

/-! ## All documents -/

/-- What is written of waypoints, routes, queries, stations, searches, ships, fleet carriers and
    configurations whose numbers are finite is read back as it was, also if the members of the
    document have been rearranged and others have been added which are no fields. And what is
    read from any document is read back once more after it has been written. -/
theorem documents_round_trip :
    RoundTrips Waypoint.fields Waypoint.IsFinite Waypoint.toJson Waypoint.ofJson? ∧
    RoundTrips Route.fields Route.IsFinite Route.toJson Route.ofJson? ∧
    RoundTrips Query.fields Query.IsFinite Query.toJson Query.ofJson? ∧
    RoundTrips Station.fields Station.IsFinite Station.toJson Station.ofJson? ∧
    RoundTrips SearchFilter.fields SearchFilter.IsFinite SearchFilter.toJson
      SearchFilter.ofJson? ∧
    RoundTrips Ship.fields Ship.IsFinite Ship.toJson Ship.ofJson? ∧
    RoundTrips Carrier.fields (fun _ => True) Carrier.toJson Carrier.ofJson? ∧
    RoundTrips Config.fields Config.IsFinite Config.toJson Config.ofJson? := by
  refine ⟨?waypoint, ?route, ?query, ?station, ?filter, ?ship, ?carrier, ?config⟩
  case waypoint =>
    refine .of_rearranged Waypoint.yields_ofJson? (fun _ => ⟨_, rfl⟩) fun w m finite h => ?_
    exact (Waypoint.ofJson?_rearranged finite.coordinates h).trans (congrArg some finite.readBack)
  case route =>
    refine .of_rearranged Route.yields_ofJson? (fun _ => ⟨_, rfl⟩) fun r m finite h => ?_
    exact (Route.ofJson?_rearranged finite.isPlaced h).trans (congrArg some finite.readBack)
  case query =>
    exact .of_rearranged Query.yields_ofJson? (fun _ => ⟨_, rfl⟩) fun _ _ =>
      Query.ofJson?_rearranged
  case station =>
    exact .of_rearranged Station.yields_ofJson? (fun _ => ⟨_, rfl⟩) fun _ _ =>
      Station.ofJson?_rearranged
  case filter =>
    exact .of_rearranged SearchFilter.yields_ofJson? (fun _ => ⟨_, rfl⟩) fun _ _ =>
      SearchFilter.ofJson?_rearranged
  case ship =>
    exact .of_rearranged Ship.yields_ofJson? (fun _ => ⟨_, rfl⟩) fun _ _ =>
      Ship.ofJson?_rearranged
  case carrier =>
    exact .of_rearranged (fun _ _ _ _ => trivial) (fun _ => ⟨_, rfl⟩) fun _ _ _ =>
      Carrier.ofJson?_rearranged
  case config =>
    refine .of_rearranged Config.yields_ofJson? (fun _ => ⟨_, rfl⟩) fun c m finite h => ?_
    exact (Config.ofJson?_rearranged finite.isPlaced h).trans (congrArg some finite.readBack)

/-- A ship in a document whose members have been turned around, with one more between them. -/
theorem ship_round_trip :
    let ship : Ship := { jumpRange := 20, pad := .small }
    Rearranged Ship.fields ship.toJson.plain
      [("landing_pad", string "small"), ("hull", string "worn"), ("jump_range_ly", float 20),
        ("name", string "")] ∧
    Ship.ofJson? (object [("landing_pad", string "small"), ("hull", string "worn"),
      ("jump_range_ly", float 20), ("name", string "")]) = some ship ∧
    Ship.ofJson? ship.toJson.plain = some ship := by
  intro ship
  obtain ⟨-, -, -, -, -, ships, -⟩ := documents_round_trip
  have finite : ship.IsFinite := by
    rw [Ship.IsFinite]
    decide +kernel
  have turned : Rearranged Ship.fields ship.toJson.plain
      [("landing_pad", string "small"), ("hull", string "worn"), ("jump_range_ly", float 20),
        ("name", string "")] := by
    refine ⟨[("name", string ""), ("jump_range_ly", float 20), ("landing_pad", string "small")],
      [("hull", string "worn")], ?_, ?_, by simp [Ship.fields]⟩
    · have range : (float ship.jumpRange).plain = float 20 := plain_float finite
      rw [Ship.toJson, plain_object, List.map_cons, List.map_cons, range]
      rfl
    · exact (List.reverse_perm _).symm.trans (.cons _ (.cons _ (.swap _ _ [])))
  have read := ships.rearranged ship _ finite turned
  exact ⟨turned, read, ships.again _ ship rfl read⟩

end Astrogation
