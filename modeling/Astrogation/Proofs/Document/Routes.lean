import Astrogation.Document.Config
import Astrogation.Proofs.Document.Values

/-!
# Routes in documents
-/

namespace Astrogation

open Json

/-- The coordinates that are known are finite. -/
structure Coordinates.IsFinite (c : Coordinates) : Prop where
  x : ∀ x, c.x = some x → x.isFinite
  y : ∀ y, c.y = some y → y.isFinite
  z : ∀ z, c.z = some z → z.isFinite

/-- Coordinates which are read from proper members are finite, as all numbers there are. -/
theorem Coordinates.isFinite_of_ofMembers? {m : List (String × Json)} {c : Coordinates}
    (proper : allMembersProper m = true) (h : ofMembers? m = some c) : c.IsFinite := by
  simp only [ofMembers?, Option.bind_eq_bind, Option.bind_eq_some_iff, Option.some.injEq] at h
  obtain ⟨x, hx, y, hy, z, hz, rfl⟩ := h
  exact ⟨yields_toFloat?.optional proper hx, yields_toFloat?.optional proper hy,
    yields_toFloat?.optional proper hz⟩

/-- Nothing is lost of a number which is known to be finite. -/
theorem filter_isFinite {x? : Option Float} (h : ∀ x, x? = some x → x.isFinite) :
    x?.filter (·.isFinite) = x? := by
  cases x? with
  | none => rfl
  | some x => exact Option.filter_some_pos (h x rfl)

/-- A coordinate which is `null` if it is not known. -/
theorem optional?_coordinate {m : List (String × Json)} {key : String} {x? : Option Float}
    (h : field? m key = some (some (ofOption (fun x => (float x).plain) x?)))
    (finite : ∀ x, x? = some x → x.isFinite) : optional? m key toFloat? = some x? :=
  optional?_of_ofOption_reads h rfl fun x hx => congrArg toFloat? (plain_float (finite x hx))

namespace Waypoint

/-- The fields of a waypoint and the values that are written for them. -/
def entries (w : Waypoint) : List (String × Option Json) :=
  [("system_name", some (string w.systemName)), ("system_address", w.address.map ofUInt64),
    ("x", some (ofOption float w.coordinates.x)), ("y", some (ofOption float w.coordinates.y)),
    ("z", some (ofOption float w.coordinates.z)), ("visited", some (bool w.visited)),
    ("station_name", w.stationName.map string), ("market_id", w.marketId.map ofUInt64),
    ("mission_ids", listValue? ofInt64 w.missionIds),
    ("is_mission_system", some (bool w.isMissionSystem)),
    ("is_scoopable", some (bool w.isScoopable)),
    ("has_neutron_star", some (bool w.hasNeutronStar)),
    ("refuel_recommended", some (bool w.refuelRecommended)),
    ("distance_from_start", w.fromStart.map float),
    ("distance_travelled", w.travelled.map float),
    ("distance_remaining", w.remaining.map float)]

/-- The fields of a waypoint. -/
def fields : List String :=
  ["system_name", "system_address", "x", "y", "z", "visited", "station_name", "market_id",
    "mission_ids", "is_mission_system", "is_scoopable", "has_neutron_star", "refuel_recommended",
    "distance_from_start", "distance_travelled", "distance_remaining"]

/-- No two fields of a waypoint have the same name, so each is written at most once. -/
theorem nodup_fields : fields.Nodup := by decide

/-- What is read back of a waypoint: distances along its route are absent if they are not
    finite. -/
def readBack (w : Waypoint) : Waypoint :=
  { w with
    fromStart := w.fromStart.filter (·.isFinite)
    travelled := w.travelled.filter (·.isFinite)
    remaining := w.remaining.filter (·.isFinite) }

/-- A waypoint is written as the members for those of its fields that have a value. -/
theorem toJson_eq (w : Waypoint) : w.toJson = object (written w.entries) := by
  simp only [toJson, entries, Coordinates.members, written_cons_some, written_cons_map,
    written_cons_listValue?, written_nil, List.append_assoc, List.cons_append, List.nil_append,
    List.append_nil]

/-- The document of a waypoint can be read down to its last part, as the reader of waypoints wants
    it. -/
theorem isReadable_toJson (w : Waypoint) : w.toJson.isReadable = true := by
  rw [toJson_eq]
  refine allMembersReadable_iff.2 (forall_written (P := fun value => value.isReadable = true) ?_)
  have missions : ∀ value, listValue? ofInt64 w.missionIds = some value →
      value.isReadable = true := fun _ => isReadable_of_listValue? fun _ => rfl
  simpa [entries] using missions

/-- Members which give its values to the fields of a waypoint are read as the waypoint, whatever
    else stands among them. -/
theorem ofMembers?_of_gives {w : Waypoint} {m : List (String × Json)}
    (finite : w.coordinates.IsFinite) (h : Gives m (plainEntries w.entries)) :
    ofMembers? m = some w.readBack := by
  simp only [entries, plainEntries, List.map_cons, List.map_nil, gives_cons, gives_nil,
    Option.map_some, Option.map_map, plain_string, plain_bool, plain_ofOption] at h
  obtain ⟨name, address, x, y, z, visited, station, market, missions, mission, scoopable, neutron,
    refuel, fromStart, travelled, remaining, -⟩ := h
  have address := optional?_of_reads address rfl toUInt64?_ofUInt64
  have station : optional? m "station_name" toString? = some w.stationName :=
    optional?_of_reads station rfl fun _ => rfl
  have market := optional?_of_reads market rfl toUInt64?_ofUInt64
  have missions := defaulted?_list missions toInt64?_ofInt64
  simp only [ofMembers?, Coordinates.ofMembers?, required?_of_field? name, address,
    optional?_coordinate x finite.x, optional?_coordinate y finite.y,
    optional?_coordinate z finite.z, defaulted?_of_field? visited, station, market, missions,
    defaulted?_of_field? mission, defaulted?_of_field? scoopable, defaulted?_of_field? neutron,
    defaulted?_of_field? refuel, optional?_finite fromStart, optional?_finite travelled,
    optional?_finite remaining, toString?, toBool?]
  rfl

/-- A waypoint with finite coordinates is read from its document, also after the members have been
    rearranged; only distances which are not finite get lost. -/
theorem ofJson?_rearranged {w : Waypoint} {m : List (String × Json)}
    (finite : w.coordinates.IsFinite) (h : Rearranged fields w.toJson.plain m) :
    ofJson? (object m) = some w.readBack := by
  have readable : w.toJson.plain.isReadable = true :=
    (isReadable_plain w.toJson).trans w.isReadable_toJson
  rw [ofJson?, if_pos (h.readable readable)]
  rw [toJson_eq] at h
  exact ofMembers?_of_gives finite (h.gives_plain nodup_fields rfl)

theorem ofJson?_toJson {w : Waypoint} (finite : w.coordinates.IsFinite) :
    ofJson? w.toJson.plain = some w.readBack :=
  ofJson?_rearranged finite (rearranged_self fields _)

/-- A waypoint whose numbers are finite. -/
structure IsFinite (w : Waypoint) : Prop where
  coordinates : w.coordinates.IsFinite
  fromStart : ∀ x, w.fromStart = some x → x.isFinite
  travelled : ∀ x, w.travelled = some x → x.isFinite
  remaining : ∀ x, w.remaining = some x → x.isFinite

/-- If all its numbers are finite, nothing of a waypoint gets lost. -/
theorem IsFinite.readBack {w : Waypoint} (h : w.IsFinite) : w.readBack = w := by
  rw [Waypoint.readBack, filter_isFinite h.fromStart, filter_isFinite h.travelled,
    filter_isFinite h.remaining]

/-- All numbers of a waypoint are finite if it was read. So none gets lost when it is written
    again. -/
theorem yields_ofJson? : Yields ofJson? IsFinite := by
  intro value w proper h
  cases value with
  | object m =>
    have proper : allMembersProper m = true := proper
    rw [ofJson?] at h
    split at h
    · obtain ⟨name, -, h⟩ := Option.bind_eq_some_iff.1 h
      obtain ⟨address, -, h⟩ := Option.bind_eq_some_iff.1 h
      obtain ⟨coordinates, hcoordinates, h⟩ := Option.bind_eq_some_iff.1 h
      -- What has no places: whether it is visited, the station, the missions and the kind of star.
      iterate 8 obtain ⟨_, -, h⟩ := Option.bind_eq_some_iff.1 h
      obtain ⟨fromStart, hfromStart, h⟩ := Option.bind_eq_some_iff.1 h
      obtain ⟨travelled, htravelled, h⟩ := Option.bind_eq_some_iff.1 h
      obtain ⟨remaining, hremaining, h⟩ := Option.bind_eq_some_iff.1 h
      obtain rfl := Option.some.inj h
      exact
        { coordinates := Coordinates.isFinite_of_ofMembers? proper hcoordinates
          fromStart := yields_toFloat?.optional proper hfromStart
          travelled := yields_toFloat?.optional proper htravelled
          remaining := yields_toFloat?.optional proper hremaining }
    · cases h
  | _ => cases h

end Waypoint

namespace Position

/-- A position is read back as it was written, unless a coordinate has no notation. -/
theorem ofJson?_toJson {p : Position} (finite : Floating.IsFinite p) :
    ofJson? p.toJson.plain = some p := by
  rw [toJson, plain_object]
  simp only [List.map_cons, List.map_nil, plain_float finite.x, plain_float finite.y,
    plain_float finite.z]
  rfl

theorem yields_ofJson? : Yields ofJson? Floating.IsFinite := by
  intro value p proper h
  simp only [ofJson?, Option.bind_eq_bind, Option.bind_eq_some_iff,
    Option.some.injEq] at h
  obtain ⟨m, hm, x, hx, y, hy, z, hz, rfl⟩ := h
  have proper := allMembersProper_of_record? proper hm
  exact ⟨yields_toFloat?.required proper hx, yields_toFloat?.required proper hy,
    yields_toFloat?.required proper hz⟩

end Position

namespace Route

/-- The fields of a route and the values that are written for them. -/
def entries (r : Route) : List (String × Option Json) :=
  [("waypoints", some (array (r.waypoints.map Waypoint.toJson))),
    ("origin", r.origin.map Position.toJson)]

/-- The fields of a route. -/
def fields : List String := ["waypoints", "origin"]

theorem nodup_fields : fields.Nodup := by decide

/-- What is read back of a route. -/
def readBack (r : Route) : Route := { r with waypoints := r.waypoints.map (·.readBack) }

/-- A route whose coordinates are finite, of its stops and of its origin. -/
structure IsPlaced (r : Route) : Prop where
  waypoints : ∀ w ∈ r.waypoints, w.coordinates.IsFinite
  origin : ∀ p, r.origin = some p → Floating.IsFinite p

theorem toJson_eq (r : Route) : r.toJson = object (written r.entries) := by
  simp only [toJson, entries, written_cons_some, written_cons_map, written_nil, List.append_nil]

/-- A placed route is read from its document, also after the members have been rearranged. Its
    stops are read one by one, each as it was written. -/
theorem ofJson?_rearranged {r : Route} {m : List (String × Json)} (placed : r.IsPlaced)
    (h : Rearranged fields r.toJson.plain m) : ofJson? (object m) = some r.readBack := by
  rw [toJson_eq] at h
  have given := h.gives_plain nodup_fields rfl
  simp only [entries, plainEntries, List.map_cons, List.map_nil, gives_cons, gives_nil,
    Option.map_some, Option.map_map, plain_array, List.map_map] at given
  obtain ⟨waypoints, origin, -⟩ := given
  -- Within the route, each stop is read as it was written, in the order of its own members.
  have waypoints : required? m "waypoints" (listOf? Waypoint.ofJson?) =
      some (r.waypoints.map (·.readBack)) := by
    rw [required?_of_field? waypoints]
    exact listOf?_map fun w hw => Waypoint.ofJson?_toJson (placed.waypoints w hw)
  have origin : optional? m "origin" Position.ofJson? = some (r.origin.map id) :=
    optional?_of_map origin rfl fun p hp => Position.ofJson?_toJson (placed.origin p hp)
  simp only [ofJson?, record?, Option.bind_eq_bind, Option.bind_some, waypoints, origin]
  rw [Option.map_id_apply, readBack]

theorem ofJson?_toJson {r : Route} (placed : r.IsPlaced) :
    ofJson? r.toJson.plain = some r.readBack :=
  ofJson?_rearranged placed (rearranged_self fields _)

/-- A route whose numbers are finite. -/
structure IsFinite (r : Route) : Prop where
  waypoints : ∀ w ∈ r.waypoints, w.IsFinite
  origin : ∀ p, r.origin = some p → Floating.IsFinite p

theorem IsFinite.isPlaced {r : Route} (h : r.IsFinite) : r.IsPlaced :=
  ⟨fun w hw => (h.waypoints w hw).coordinates, h.origin⟩

/-- If all its numbers are finite, nothing of a route gets lost. -/
theorem IsFinite.readBack {r : Route} (h : r.IsFinite) : r.readBack = r := by
  have same : r.waypoints.map (·.readBack) = r.waypoints.map id :=
    List.map_congr_left fun w hw => (h.waypoints w hw).readBack
  rw [Route.readBack, same, List.map_id]

/-- All numbers of a route are finite if it was read, those of its stops and of its origin. -/
theorem yields_ofJson? : Yields ofJson? IsFinite := by
  intro value r proper h
  simp only [ofJson?, Option.bind_eq_bind, Option.bind_eq_some_iff,
    Option.some.injEq] at h
  obtain ⟨m, hm, waypoints, hwaypoints, origin, horigin, rfl⟩ := h
  have proper := allMembersProper_of_record? proper hm
  exact ⟨Waypoint.yields_ofJson?.listOf.required proper hwaypoints,
    Position.yields_ofJson?.optional proper horigin⟩

end Route

namespace Config

/-- The fields of a configuration and the values that are written for them. -/
def entries (c : Config) : List (String × Option Json) :=
  [("last_query", some (ofOption QueryType.toJson c.lastQuery)),
    ("last_arg0", some (ofOption string c.lastArg0)),
    ("last_arg1", some (ofOption string c.lastArg1)),
    ("last_carrier_destination", some (ofOption string c.lastCarrierDestination)),
    ("plotted_route", some (ofOption Route.toJson c.plottedRoute)),
    ("plotted_query", some (ofOption QueryType.toJson c.plottedQuery)),
    ("carrier_route", some (ofOption Route.toJson c.carrierRoute)),
    ("max_station_distance_ls", some (float c.maxStationDistance)),
    ("prioritize_orbital_stations", some (bool c.prioritizeOrbital))]

/-- The fields of a configuration. -/
def fields : List String :=
  ["last_query", "last_arg0", "last_arg1", "last_carrier_destination", "plotted_route",
    "plotted_query", "carrier_route", "max_station_distance_ls", "prioritize_orbital_stations"]

theorem nodup_fields : fields.Nodup := by decide

/-- What is read back of a configuration. -/
def readBack (c : Config) : Config :=
  { c with
    plottedRoute := c.plottedRoute.map (·.readBack)
    carrierRoute := c.carrierRoute.map (·.readBack) }

/-- A configuration of placed routes, in which the search for stations is bounded by a finite
    distance. -/
structure IsPlaced (c : Config) : Prop where
  plotted : ∀ r, c.plottedRoute = some r → r.IsPlaced
  carrier : ∀ r, c.carrierRoute = some r → r.IsPlaced
  maxStationDistance : c.maxStationDistance.isFinite

theorem toJson_eq (c : Config) : c.toJson = object (written c.entries) := rfl

/-- A configuration of placed routes is read from its document, also after the members have been
    rearranged. -/
theorem ofJson?_rearranged {c : Config} {m : List (String × Json)} (placed : c.IsPlaced)
    (h : Rearranged fields c.toJson.plain m) : ofJson? (object m) = some c.readBack := by
  rw [toJson_eq] at h
  have given := h.gives_plain nodup_fields rfl
  simp only [entries, plainEntries, List.map_cons, List.map_nil, gives_cons, gives_nil,
    Option.map_some, plain_ofOption, plain_string, plain_bool,
    plain_float placed.maxStationDistance] at given
  obtain ⟨lastQuery, lastArg0, lastArg1, lastCarrier, plotted, plottedQuery, carrier, distance,
    orbital, -⟩ := given
  have lastQuery := optional?_of_ofOption_reads lastQuery rfl fun q _ => q.ofJson?_toJson
  have lastArg0 : optional? m "last_arg0" toString? = some c.lastArg0 :=
    optional?_of_ofOption_reads lastArg0 rfl fun _ _ => rfl
  have lastArg1 : optional? m "last_arg1" toString? = some c.lastArg1 :=
    optional?_of_ofOption_reads lastArg1 rfl fun _ _ => rfl
  have lastCarrier : optional? m "last_carrier_destination" toString? =
      some c.lastCarrierDestination := optional?_of_ofOption_reads lastCarrier rfl fun _ _ => rfl
  have plottedQuery := optional?_of_ofOption_reads plottedQuery rfl fun q _ => q.ofJson?_toJson
  have plotted := optional?_of_ofOption plotted rfl fun r hr =>
    Route.ofJson?_toJson (placed.plotted r hr)
  have carrier := optional?_of_ofOption carrier rfl fun r hr =>
    Route.ofJson?_toJson (placed.carrier r hr)
  simp only [ofJson?, record?, Option.bind_eq_bind, Option.bind_some, lastQuery, lastArg0,
    lastArg1, lastCarrier, plotted, plottedQuery, carrier, defaulted?_of_field? distance,
    defaulted?_of_field? orbital, toFloat?, toBool?]
  rfl

/-- A configuration whose numbers are finite. -/
structure IsFinite (c : Config) : Prop where
  plotted : ∀ r, c.plottedRoute = some r → r.IsFinite
  carrier : ∀ r, c.carrierRoute = some r → r.IsFinite
  maxStationDistance : c.maxStationDistance.isFinite

/-- Finite numbers are more than it takes for a configuration to be read back. -/
theorem IsFinite.isPlaced {c : Config} (h : c.IsFinite) : c.IsPlaced :=
  ⟨fun r hr => (h.plotted r hr).isPlaced, fun r hr => (h.carrier r hr).isPlaced,
    h.maxStationDistance⟩

theorem IsFinite.readBack {c : Config} (h : c.IsFinite) : c.readBack = c := by
  have plotted : c.plottedRoute.map (·.readBack) = c.plottedRoute.map id :=
    Option.map_congr fun r hr => (h.plotted r hr).readBack
  have carrier : c.carrierRoute.map (·.readBack) = c.carrierRoute.map id :=
    Option.map_congr fun r hr => (h.carrier r hr).readBack
  rw [Config.readBack, plotted, carrier, Option.map_id_apply, Option.map_id_apply]

/-- All numbers of a configuration are finite if it was read: those of its two routes, and the
    bound of the search for stations. -/
theorem yields_ofJson? : Yields ofJson? IsFinite := by
  intro value c proper h
  simp only [ofJson?, Option.bind_eq_bind, Option.bind_eq_some_iff,
    Option.some.injEq] at h
  obtain ⟨m, hm, lastQuery, -, lastArg0, -, lastArg1, -, lastCarrier, -, plotted, hplotted,
    plottedQuery, -, carrier, hcarrier, distance, hdistance, orbital, -, rfl⟩ := h
  have proper := allMembersProper_of_record? proper hm
  exact ⟨Route.yields_ofJson?.optional proper hplotted,
    Route.yields_ofJson?.optional proper hcarrier, yields_toFloat?.defaulted proper rfl hdistance⟩

end Config

end Astrogation
