import Luma.Library.FirstHighest
import Luma.Library.Ranking
import Mathlib.Data.List.Dedup

/-! The Wi-Fi networks of the shell's menu, from a snapshot of NetworkManager's objects. -/

set_option autoImplicit false

namespace Luma.Shell.Wifi

open Luma.Library

abbrev ObjectPath := String

inductive Variant where
  | byte (value : UInt8)
  | uint32 (value : UInt32)
  | bytes (value : List UInt8)
  | objectPath (value : ObjectPath)
  | objectPaths (value : List ObjectPath)
  | other
  deriving DecidableEq, Repr

abbrev Properties := String → Option Variant

abbrev Interfaces := String → Option Properties

structure Objects where
  entries : List (ObjectPath × Interfaces)
  distinct : (entries.map (·.1)).Nodup

def Objects.get (objects : Objects) (path : ObjectPath) : Option Interfaces :=
  (objects.entries.find? fun entry => entry.1 = path).map (·.2)

def deviceInterface : String := "org.freedesktop.NetworkManager.Device"

def wirelessInterface : String := "org.freedesktop.NetworkManager.Device.Wireless"

def accessPointInterface : String := "org.freedesktop.NetworkManager.AccessPoint"

inductive Security where
  | open | psk | sae | owe | unsupported
  deriving DecidableEq, Repr

def security (flags wpa rsn : UInt32) : Security :=
  let keys := wpa ||| rsn
  if keys &&& 0x100 ≠ 0 then .psk
  else if keys &&& 0x400 ≠ 0 then .sae
  else if keys &&& 0x800 ≠ 0 then .owe
  else if flags &&& 1 = 0 ∧ keys = 0 then .open
  else .unsupported

structure AccessPoint where
  device : ObjectPath
  path : ObjectPath
  ssid : List UInt8
  strength : UInt8
  secured : Bool
  active : Bool
  security : Security
  deriving DecidableEq, Repr

/-- The name, the privacy flag, and the flags of the two protocols. -/
abbrev Key := List UInt8 × UInt32 × UInt32 × UInt32

def flag (properties : Properties) (name : String) : UInt32 :=
  match properties name with
  | some (.uint32 value) => value
  | _ => 0

def ssid (properties : Properties) : List UInt8 :=
  match properties "Ssid" with
  | some (.bytes value) => value
  | _ => []

def strength (properties : Properties) : UInt8 :=
  match properties "Strength" with
  | some (.byte value) => min value 100
  | _ => 0

/-- The access point at a path that a device reports, with the key of its network. -/
def point (objects : Objects) (device : ObjectPath) (active : Option ObjectPath) (path : ObjectPath) :
    Option (Key × AccessPoint) := do
  let properties ← (← objects.get path) accessPointInterface
  let ssid := ssid properties
  if ssid = [] ∨ ssid.length > 32 then none
  else
    let flag := flag properties
    some ((ssid, flag "Flags" &&& 1, flag "WpaFlags", flag "RsnFlags"),
      { device
        path
        ssid
        strength := strength properties
        secured := flag "Flags" &&& 1 ≠ 0 ∨ flag "WpaFlags" ≠ 0 ∨ flag "RsnFlags" ≠ 0
        active := active = some path
        security := security (flag "Flags") (flag "WpaFlags") (flag "RsnFlags") })

/-- The access points that one object reports. -/
def points (objects : Objects) (object : ObjectPath × Interfaces) : List (Key × AccessPoint) :=
  if (object.2 deviceInterface).bind (· "DeviceType") ≠ some (.uint32 2) then []
  else
    match object.2 wirelessInterface with
    | none => []
    | some wireless =>
        let active :=
          match wireless "ActiveAccessPoint" with
          | some (.objectPath path) => some path
          | _ => none
        let paths :=
          match wireless "AccessPoints" with
          | some (.objectPaths paths) => paths
          | _ => []
        paths.filterMap (point objects object.1 active)

def higher (new old : AccessPoint) : Bool :=
  (compare new.active old.active).then (compare new.strength old.strength) == .gt

/-- The networks, from the objects in the order they are iterated in. -/
def networks (objects : Objects) (order : List (ObjectPath × Interfaces)) : List (Key × AccessPoint) :=
  FirstHighest.table higher (order.flatMap (points objects))

def rank (first second : AccessPoint) : Ordering :=
  (compare second.active first.active).then
    ((compare second.strength first.strength).then (compare first.ssid second.ssid))

def before (first second : AccessPoint) : Bool := (rank first second).isLE

/-- An order in which the maps of the objects and of the networks are iterated. -/
structure Iteration (objects : Objects) where
  order : List (ObjectPath × Interfaces)
  ofObjects : order.Perm objects.entries
  values : List AccessPoint
  ofNetworks : values.Perm ((networks objects order).map (·.2))

def accessPoints {objects : Objects} (iteration : Iteration objects) : List AccessPoint :=
  (iteration.values.mergeSort before).take 64

/-! ## The statement -/

/-- The access points that the snapshot reports, with the keys of their networks. -/
def reported (objects : Objects) : List (Key × AccessPoint) := objects.entries.flatMap (points objects)

/-- The place of the active flag and the strength in their order. -/
def level (point : AccessPoint) : Nat := (if point.active then 256 else 0) + point.strength.toNat

/-- The list has the best networks of the snapshot, each once. -/
def Lists (objects : Objects) (list : List AccessPoint) : Prop :=
  ∃ entries : List (Key × AccessPoint), list = entries.map (·.2) ∧ (entries.map (·.1)).Nodup ∧
    (∀ entry ∈ entries, entry ∈ reported objects ∧
      ∀ other ∈ reported objects, other.1 = entry.1 → level other.2 ≤ level entry.2) ∧
    list.Pairwise (fun first second => rank first second ≠ .gt) ∧ list.length ≤ 64 ∧
    ∀ dropped ∈ reported objects, dropped.1 ∉ entries.map (·.1) →
      list.length = 64 ∧ ∀ entry ∈ list, rank entry dropped.2 ≠ .gt

/-- The first best point of its network among those that one device reports, and as good as any device's. -/
def Contender (objects : Objects) (found : Key × AccessPoint) : Prop :=
  (∃ object ∈ objects.entries, FirstHighest.First level (points objects object) found) ∧
    ∀ other ∈ reported objects, other.1 = found.1 → level other.2 ≤ level found.2

/-- The number of networks with a point that is better. -/
def keysAhead (objects : Objects) (point : AccessPoint) : Nat :=
  (((reported objects).filter fun other => rank other.2 point = .lt).map (·.1)).dedup.length

/-- No two points that may stand at one place of the list are tied. -/
def Untied (objects : Objects) : Prop :=
  ∀ first second, Contender objects first → Contender objects second → rank first.2 second.2 = .eq →
    keysAhead objects first.2 < 64 → first.2 = second.2

/-! ## The order -/

theorem compare_strength (first second : UInt8) : compare first second = compare first.toNat second.toNat := by
  have same : first = second ↔ first.toNat = second.toNat := UInt8.toNat_inj.symm
  show compareOfLessAndEq first second = compareOfLessAndEq first.toNat second.toNat
  simp only [compareOfLessAndEq, UInt8.lt_iff_toNat_lt, same]

theorem compare_level (first second : AccessPoint) : compare (level first) (level second) =
    (compare first.active second.active).then (compare first.strength second.strength) := by
  have bound := first.strength.toNat_lt
  have bound' := second.strength.toNat_lt
  rw [compare_strength]
  unfold level
  cases first.active <;> cases second.active
  · simp [Ordering.then]
  · exact Nat.compare_eq_lt.mpr (by simp; omega)
  · exact Nat.compare_eq_gt.mpr (by simp; omega)
  · show compare (256 + first.strength.toNat) (256 + second.strength.toNat) = _
    simp only [Nat.compare_eq_ite_lt, Nat.add_lt_add_iff_left]
    rfl

theorem higher_iff (new old : AccessPoint) : higher new old = true ↔ level old < level new := by
  rw [higher, ← compare_level, beq_iff_eq, Nat.compare_eq_gt]

theorem rank_eq (first second : AccessPoint) :
    rank first second = (compare (level second) (level first)).then (compare first.ssid second.ssid) := by
  rw [rank, compare_level, Ordering.then_assoc]

instance : Std.TransCmp rank := by
  have lexicographic : rank = compareLex (fun first second => compareOn level second first) (compareOn (·.ssid)) := by
    funext first second
    exact rank_eq first second
  rw [lexicographic]
  infer_instance

theorem preordered : Ranking.Preordered before := by
  constructor
  · intro first second third upTo upTo'
    exact Std.TransCmp.isLE_trans upTo upTo'
  · intro first second
    have swap : rank second first = (rank first second).swap := Std.OrientedCmp.eq_swap
    rw [before, before, swap]
    cases rank first second <;> rfl

theorem before_iff {first second : AccessPoint} : before first second = true ↔ rank first second ≠ .gt :=
  Ordering.isLE_iff_ne_gt

theorem better_iff {first second : AccessPoint} :
    Ranking.better before first second = true ↔ rank first second = .lt := by
  have swap : rank second first = (rank first second).swap := Std.OrientedCmp.eq_swap
  rw [Ranking.better, before, before, swap]
  cases rank first second <;> decide

theorem tied_iff {first second : AccessPoint} :
    rank first second = .eq ↔ before first second = true ∧ before second first = true := by
  have swap : rank second first = (rank first second).swap := Std.OrientedCmp.eq_swap
  rw [before, before, swap]
  cases rank first second <;> decide

/-- Of one network, the higher points come first. -/
theorem before_of_level {first second : AccessPoint} (name : first.ssid = second.ssid)
    (upTo : level second ≤ level first) : before first second = true := by
  have ordered : (compare (level second) (level first)).isLE = true := Nat.isLE_compare.mpr upTo
  rw [before, rank_eq, name, Std.ReflOrd.compare_self, Ordering.then_eq]
  exact ordered

/-! ## The reported points -/

section
variable {objects : Objects} {found other : Key × AccessPoint}

theorem mem_points {object : ObjectPath × Interfaces} (there : found ∈ points objects object) :
    ∃ active path, point objects object.1 active path = some found := by
  unfold points at there
  split at there
  · cases there
  · split at there
    · cases there
    · obtain ⟨path, -, reports⟩ := List.mem_filterMap.mp there
      exact ⟨_, path, reports⟩

theorem point_some {device : ObjectPath} {active : Option ObjectPath} {path : ObjectPath}
    (reports : point objects device active path = some found) :
    ∃ interfaces properties, objects.get path = some interfaces ∧ interfaces accessPointInterface = some properties ∧
      found.2.path = path ∧ found.2.device = device ∧ found.2.ssid = ssid properties ∧
      found.1 = (ssid properties, flag properties "Flags" &&& 1, flag properties "WpaFlags",
        flag properties "RsnFlags") := by
  unfold point at reports
  cases known : objects.get path with
  | none => simp [known] at reports
  | some interfaces =>
    cases listed : interfaces accessPointInterface with
    | none => simp [known, listed] at reports
    | some properties =>
      simp only [known, listed, Option.bind_eq_bind, Option.bind_some] at reports
      split at reports
      · cases reports
      · injection reports with same
        subst same
        exact ⟨interfaces, properties, rfl, listed, rfl, rfl, rfl, rfl⟩

theorem mem_reported : found ∈ reported objects ↔ ∃ object ∈ objects.entries, found ∈ points objects object :=
  List.mem_flatMap

theorem ssid_of_reported (there : found ∈ reported objects) : found.2.ssid = found.1.1 := by
  obtain ⟨object, -, inside⟩ := mem_reported.mp there
  obtain ⟨active, path, reports⟩ := mem_points inside
  obtain ⟨interfaces, properties, -, -, -, -, name, key⟩ := point_some reports
  rw [name, key]

/-- One path has one network. -/
theorem key_of_path (there : found ∈ reported objects) (there' : other ∈ reported objects)
    (path : found.2.path = other.2.path) : found.1 = other.1 := by
  obtain ⟨object, -, inside⟩ := mem_reported.mp there
  obtain ⟨object', -, inside'⟩ := mem_reported.mp there'
  obtain ⟨active, at_, reports⟩ := mem_points inside
  obtain ⟨active', at_', reports'⟩ := mem_points inside'
  obtain ⟨interfaces, properties, known, listed, rfl, -, -, key⟩ := point_some reports
  obtain ⟨interfaces', properties', known', listed', rfl, -, -, key'⟩ := point_some reports'
  rw [path, known'] at known
  cases known
  rw [listed'] at listed
  cases listed
  rw [key, key']

theorem Contender.reported (contender : Contender objects found) : found ∈ reported objects := by
  obtain ⟨⟨object, there, first⟩, -⟩ := contender
  exact mem_reported.mpr ⟨object, there, first.mem⟩

theorem Contender.before (contender : Contender objects found) (there : other ∈ Wifi.reported objects)
    (same : other.1 = found.1) : before found.2 other.2 = true := by
  refine before_of_level ?_ (contender.2 other there same)
  rw [ssid_of_reported contender.reported, ssid_of_reported there, same]

/-! ## The networks of an iteration -/

section
variable {order : List (ObjectPath × Interfaces)}

theorem mem_order (ofObjects : order.Perm objects.entries) :
    found ∈ order.flatMap (points objects) ↔ found ∈ reported objects :=
  (ofObjects.flatMap_right _).mem_iff

theorem networks_holds (objects : Objects) (order : List (ObjectPath × Interfaces)) :
    FirstHighest.Holds level (order.flatMap (points objects)) (networks objects order) :=
  FirstHighest.table_holds higher_iff _

theorem contender_of_mem (ofObjects : order.Perm objects.entries) (there : found ∈ networks objects order) :
    Contender objects found := by
  have first := ((networks_holds objects order).first found).mp there
  constructor
  · obtain ⟨object, inside, first⟩ := first.of_flatMap
    exact ⟨object, ofObjects.mem_iff.mp inside, first⟩
  · intro other reports same
    exact first.highest other ((mem_order ofObjects).mpr reports) same

theorem exists_network (ofObjects : order.Perm objects.entries) (reports : found ∈ reported objects) :
    ∃ other ∈ networks objects order, other.1 = found.1 :=
  (networks_holds objects order).every found ((mem_order ofObjects).mpr reports)

/-- A contender is shown if its device is iterated first. -/
theorem exists_order (contender : Contender objects found) :
    ∃ order : List (ObjectPath × Interfaces), order.Perm objects.entries ∧ found ∈ networks objects order := by
  obtain ⟨⟨object, there, first⟩, highest⟩ := contender
  obtain ⟨front, back, whole⟩ := List.append_of_mem there
  have ofObjects : (object :: (front ++ back)).Perm objects.entries := by
    rw [whole]
    exact List.perm_middle.symm
  refine ⟨object :: (front ++ back), ofObjects, ((networks_holds objects _).first found).mpr ?_⟩
  rw [List.flatMap_cons]
  apply first.append
  intro other later same
  have inside : other ∈ (object :: (front ++ back)).flatMap (points objects) := by
    rw [List.flatMap_cons]
    exact List.mem_append_right _ later
  exact highest other ((mem_order ofObjects).mp inside) same

/-! ## The places of the networks -/

def beforeEntry (first second : Key × AccessPoint) : Bool := before first.2 second.2

theorem preordered_entry : Ranking.Preordered beforeEntry :=
  ⟨fun first second third => preordered.trans first.2 second.2 third.2,
    fun first second => preordered.total first.2 second.2⟩

theorem ahead_eq (ofObjects : order.Perm objects.entries) (found : Key × AccessPoint) :
    Ranking.ahead beforeEntry (networks objects order) found = keysAhead objects found.2 := by
  have holds := networks_holds objects order
  have distinct : (((networks objects order).filter fun other =>
      Ranking.better beforeEntry other found).map (·.1)).Nodup :=
    holds.distinct.sublist (List.filter_sublist.map _)
  rw [Ranking.ahead, List.countP_eq_length_filter, ← List.length_map (·.1), keysAhead]
  apply List.Perm.length_eq
  rw [List.perm_ext_iff_of_nodup distinct (List.nodup_dedup _)]
  intro key
  simp only [List.mem_dedup, List.mem_map, List.mem_filter, decide_eq_true_eq]
  constructor
  · rintro ⟨other, ⟨there, ranks⟩, rfl⟩
    exact ⟨other, ⟨(contender_of_mem ofObjects there).reported, better_iff.mp ranks⟩, rfl⟩
  · -- The network of a better point has an entry that is at least as good.
    rintro ⟨other, ⟨reports, ranks⟩, rfl⟩
    obtain ⟨best, there, same⟩ := exists_network ofObjects reports
    have upTo := (contender_of_mem ofObjects there).before reports same.symm
    refine ⟨best, ⟨there, better_iff.mpr ?_⟩, same⟩
    exact Std.TransCmp.lt_of_isLE_of_lt upTo ranks

/-- The list has the first entries of the networks in a sorted order. -/
theorem exists_ranked (iteration : Iteration objects) :
    ∃ ranked : List (Key × AccessPoint), ranked.Perm (networks objects iteration.order) ∧
      ranked.Pairwise (fun first second => beforeEntry first second = true) ∧
        accessPoints iteration = (ranked.take 64).map (·.2) := by
  have sorted := List.pairwise_mergeSort preordered.trans preordered.total iteration.values
  have lifted : Relation.Comp (fun list entries => list = entries.map Prod.snd) List.Perm
      (iteration.values.mergeSort before) (networks objects iteration.order) := by
    rw [List.eq_map_comp_perm]
    exact (List.mergeSort_perm _ _).trans iteration.ofNetworks
  obtain ⟨ranked, whole, arranged⟩ := lifted
  refine ⟨ranked, arranged, ?_, ?_⟩
  · rw [whole, List.pairwise_map] at sorted
    exact sorted
  · rw [accessPoints, whole, List.map_take]

/-- Every sorted order of the networks is that of an iteration. -/
theorem exists_iteration (ofObjects : order.Perm objects.entries) {ranked : List (Key × AccessPoint)}
    (arranged : ranked.Perm (networks objects order))
    (sorted : ranked.Pairwise fun first second => beforeEntry first second = true) :
    ∃ iteration : Iteration objects, accessPoints iteration = (ranked.take 64).map (·.2) := by
  refine ⟨⟨order, ofObjects, ranked.map (·.2), arranged.map _⟩, ?_⟩
  have ranks : (ranked.map (·.2)).Pairwise fun first second => before first second = true :=
    List.pairwise_map.mpr sorted
  rw [accessPoints, List.mergeSort_of_pairwise ranks, List.map_take]

end

/-! ## The list -/

theorem lists (iteration : Iteration objects) : Lists objects (accessPoints iteration) := by
  obtain ⟨ranked, arranged, sorted, whole⟩ := exists_ranked iteration
  have contenders : ∀ entry ∈ ranked, Contender objects entry := fun entry there =>
    contender_of_mem iteration.ofObjects (arranged.mem_iff.mp there)
  have distinct : (ranked.map (·.1)).Nodup :=
    (arranged.map _).nodup_iff.mpr (networks_holds objects iteration.order).distinct
  refine ⟨ranked.take 64, whole, ?_, ?_, ?_, ?_, ?_⟩
  · rw [List.map_take]
    exact distinct.sublist (List.take_sublist _ _)
  · intro entry there
    have contender := contenders entry (List.mem_of_mem_take there)
    exact ⟨contender.reported, contender.2⟩
  · rw [whole, List.pairwise_map]
    exact (sorted.sublist (List.take_sublist _ _)).imp before_iff.mp
  · rw [whole, List.length_map]
    exact List.length_take_le _ _
  · intro dropped reports absent
    obtain ⟨best, there, same⟩ := exists_network iteration.ofObjects reports
    have behind : best ∉ ranked.take 64 := by
      intro kept
      exact absent (same ▸ List.mem_map_of_mem kept)
    have upTo := (contender_of_mem iteration.ofObjects there).before reports same.symm
    obtain ⟨full, least⟩ := Ranking.full_of_dropped sorted (arranged.mem_iff.mpr there) behind
    rw [whole, List.length_map]
    refine ⟨full, fun entry listed => ?_⟩
    obtain ⟨kept, kept', rfl⟩ := List.mem_map.mp listed
    exact before_iff.mp (preordered.trans _ _ _ (least kept kept') upTo)

theorem keysAhead_of_tied {first second : AccessPoint} (tied : rank first second = .eq) :
    keysAhead objects first = keysAhead objects second := by
  have same : ∀ other, rank other first = rank other second := fun other => Std.TransCmp.congr_right tied
  simp only [keysAhead, same]

/-- A contender stands in its place in the list of an iteration. -/
theorem exists_place (contender : Contender objects found) (few : keysAhead objects found.2 < 64) :
    ∃ iteration : Iteration objects, (accessPoints iteration)[keysAhead objects found.2]? = some found.2 := by
  obtain ⟨order, ofObjects, there⟩ := exists_order contender
  obtain ⟨ranked, arranged, sorted, place⟩ := Ranking.exists_sorted preordered_entry there
  obtain ⟨iteration, whole⟩ := exists_iteration ofObjects arranged sorted
  rw [ahead_eq ofObjects] at place
  refine ⟨iteration, ?_⟩
  rw [whole, List.getElem?_map, List.getElem?_take_of_lt few, place]
  rfl

theorem untied_of_same (same : ∀ first second : Iteration objects, accessPoints first = accessPoints second) :
    Untied objects := by
  intro first second contender contender' tied few
  obtain ⟨iteration, place⟩ := exists_place contender few
  obtain ⟨iteration', place'⟩ := exists_place contender' (keysAhead_of_tied tied ▸ few)
  rw [same iteration iteration', keysAhead_of_tied tied, place'] at place
  exact (Option.some.inj place).symm

theorem same_of_untied (untied : Untied objects) (first second : Iteration objects) :
    accessPoints first = accessPoints second := by
  obtain ⟨ranked, arranged, sorted, whole⟩ := exists_ranked first
  obtain ⟨ranked', arranged', sorted', whole'⟩ := exists_ranked second
  have contenders : ∀ entry ∈ ranked, Contender objects entry := fun entry there =>
    contender_of_mem first.ofObjects (arranged.mem_iff.mp there)
  have contenders' : ∀ entry ∈ ranked', Contender objects entry := fun entry there =>
    contender_of_mem second.ofObjects (arranged'.mem_iff.mp there)
  have distinct := (arranged.map (·.1)).nodup_iff.mpr (networks_holds objects first.order).distinct
  have distinct' := (arranged'.map (·.1)).nodup_iff.mpr (networks_holds objects second.order).distinct
  have keys : (ranked.map (·.1)).Perm (ranked'.map (·.1)) := by
    rw [List.perm_ext_iff_of_nodup distinct distinct']
    intro key
    constructor
    · intro listed
      obtain ⟨entry, there, rfl⟩ := List.mem_map.mp listed
      obtain ⟨other, inside, same⟩ := exists_network second.ofObjects (contenders entry there).reported
      exact same ▸ List.mem_map_of_mem (arranged'.mem_iff.mpr inside)
    · intro listed
      obtain ⟨entry, there, rfl⟩ := List.mem_map.mp listed
      obtain ⟨other, inside, same⟩ := exists_network first.ofObjects (contenders' entry there).reported
      exact same ▸ List.mem_map_of_mem (arranged.mem_iff.mpr inside)
  rw [whole, whole']
  refine congrArg _ (Ranking.take_eq_of_untied preordered_entry (·.1) 64 sorted sorted' keys ?_ ?_)
  · intro entry there other there' same
    exact ⟨(contenders entry there).before (contenders' other there').reported same.symm,
      (contenders' other there').before (contenders entry there).reported same⟩
  · intro entry there other there' upTo upTo' few
    have few' : keysAhead objects entry.2 < 64 := by
      rw [← ahead_eq first.ofObjects, Ranking.ahead, ← arranged.countP_eq]
      exact few
    have point := untied entry other (contenders entry there) (contenders' other there')
      (tied_iff.mpr ⟨upTo, upTo'⟩) few'
    have key := key_of_path (contenders entry there).reported (contenders' other there').reported
      (congrArg AccessPoint.path point)
    exact Prod.ext key point

end

/-- Every list has the best networks of the snapshot; it is the same for all iterations if and only if no two
points that may stand at one place are tied. -/
theorem access_points (objects : Objects) :
    (∀ iteration : Iteration objects, Lists objects (accessPoints iteration)) ∧
      ((∀ first second : Iteration objects, accessPoints first = accessPoints second) ↔ Untied objects) :=
  ⟨lists, untied_of_same, same_of_untied⟩

/-- An open and a protected network of one name and strength. -/
def twins : Objects where
  entries :=
    [("/device", fun interface =>
        if interface = deviceInterface then some fun name => if name = "DeviceType" then some (.uint32 2) else none
        else if interface = wirelessInterface then
          some fun name => if name = "AccessPoints" then some (.objectPaths ["/ap1", "/ap2"]) else none
        else none),
      ("/ap1", fun interface =>
        if interface = accessPointInterface then some fun name => if name = "Ssid" then some (.bytes [65]) else none
        else none),
      ("/ap2", fun interface =>
        if interface = accessPointInterface then
          some fun name =>
            if name = "Ssid" then some (.bytes [65]) else if name = "Flags" then some (.uint32 1) else none
        else none)]
  distinct := by decide

theorem twins_swap : ∃ first second : Iteration twins, accessPoints first ≠ accessPoints second := by
  let ranked := (networks twins twins.entries).map (·.2)
  have sorted : ranked.Pairwise fun first second => before first second = true := by decide +kernel
  have sorted' : ranked.reverse.Pairwise fun first second => before first second = true := by decide +kernel
  have other : ranked.take 64 ≠ ranked.reverse.take 64 := by decide +kernel
  refine ⟨⟨twins.entries, List.Perm.refl _, ranked, List.Perm.refl _⟩,
    ⟨twins.entries, List.Perm.refl _, ranked.reverse, List.reverse_perm _⟩, ?_⟩
  rw [accessPoints, accessPoints, List.mergeSort_of_pairwise sorted, List.mergeSort_of_pairwise sorted']
  exact other

end Luma.Shell.Wifi
