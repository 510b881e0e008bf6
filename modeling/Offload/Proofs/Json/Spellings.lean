/-
**Values are read back from their JSON.**

Every type of the library that has a JSON form is written in one way and read in several.  A record
may be an object with its members in any order, or the array of its fields; this holds for the
records inside it as well.  A name may be a string, or an object that maps the name to `null`.  All
of these spellings of a value are read as the value, over the full range of its numbers, and blanks
before and after the text make no difference.

Main definitions:

* `Offload.Json.Spells` — the spellings of a record;
* `Offload.Json.Names` — the spellings of a name;
* `Spelled` in the namespaces of the types — the spellings of a value;
* `Offload.Json.RoundTrips` — a type whose spellings are all read back.

Main results:

* `Offload.Json.fields?_of_spells` — the fields of a record are found in each of its spellings;
* `Offload.Json.values_round_trip` — **every value is read back from each of its spellings**.
-/

import Mathlib.Data.List.Nodup
import Offload.Json.Forms
import Offload.Proofs.Json.Text

set_option autoImplicit false

namespace Offload

namespace Json

/-! ### Records -/

/-- The spellings of a record: an object with the fields as its members, in any order, or the array
of the fields, in order. -/
inductive Spells (fields : List (String × Json)) : Json → Prop
  | object {members : List (Quoted × Json)}
      (h : members.Perm (fields.map fun f => (.text f.1, f.2))) : Spells fields (.object members)
  | array : Spells fields (.array (fields.map Prod.snd))

theorem spells_record (fields : List (String × Json)) : Spells fields (.record fields) :=
  .object (.refl _)

theorem Spells.ne_null {fields : List (String × Json)} {j : Json} (h : Spells fields j) :
    j ≠ .null := by
  cases h <;> nofun

section Fields

variable {fields : List (String × Json)} {members : List (Quoted × Json)}

theorem lookup_of_mem {m : Quoted × Json} (hnodup : (members.map Prod.fst).Nodup)
    (hmem : m ∈ members) : members.lookup m.1 = some m.2 := by
  induction members with
  | nil => cases hmem
  | cons n members ih =>
      rw [List.map_cons, List.nodup_cons] at hnodup
      rcases List.mem_cons.1 hmem with rfl | htail
      · exact List.lookup_cons_self
      · have hne : m.1 ≠ n.1 := by
          intro heq
          rw [← heq] at hnodup
          exact hnodup.1 (List.mem_map_of_mem htail)
        rw [List.lookup_cons, beq_false_of_ne hne]
        exact ih hnodup.2 htail

/-- The keys of an object that spells a record are the names of the fields. -/
theorem keys_perm (hperm : members.Perm (fields.map fun f => (.text f.1, f.2))) :
    (members.map Prod.fst).Perm ((fields.map Prod.fst).map .text) := by
  have hkeys := hperm.map Prod.fst
  rw [List.map_map] at hkeys ⊢
  exact hkeys

theorem nodup_keys (hnodup : (fields.map Prod.fst).Nodup)
    (hperm : members.Perm (fields.map fun f => (.text f.1, f.2))) :
    (members.map Prod.fst).Nodup := by
  refine (keys_perm hperm).nodup_iff.2 (hnodup.map ?_)
  intro s t h
  cases h
  rfl

theorem legalKeys_of_perm (isClosed : Bool) (hnodup : (fields.map Prod.fst).Nodup)
    (hperm : members.Perm (fields.map fun f => (.text f.1, f.2))) :
    legalKeys isClosed (fields.map Prod.fst) members = true := by
  unfold legalKeys
  rw [Bool.and_eq_true, List.all_eq_true, List.all_eq_true]
  constructor
  · intro key hkey
    obtain ⟨name, hname, rfl⟩ := List.mem_map.1 ((keys_perm hperm).mem_iff.1 hkey)
    simp [hname]
  · intro name _
    have hcount := List.nodup_iff_count_le_one.1 (nodup_keys hnodup hperm) (.text name)
    simpa using hcount

/-- **The fields of a record are found in each of its spellings**, whether or not it may have other
members. -/
theorem fields?_of_spells (isClosed : Bool) {j : Json} (hnodup : (fields.map Prod.fst).Nodup)
    (h : Spells fields j) :
    j.fields? isClosed (fields.map Prod.fst) = some (fields.map fun f => some f.2) := by
  cases h with
  | @object members hperm =>
      have hlookup : ∀ f ∈ fields, members.lookup (.text f.1) = some f.2 := by
        intro f hf
        have hmem : (Quoted.text f.1, f.2) ∈ members :=
          hperm.mem_iff.2 (List.mem_map_of_mem hf)
        exact lookup_of_mem (nodup_keys hnodup hperm) hmem
      rw [fields?, legalKeys_of_perm isClosed hnodup hperm, if_pos rfl, List.map_map]
      exact congrArg some (List.map_congr_left hlookup)
  | array => simp [fields?]

end Fields

/-! ### Names and numbers -/

/-- The spellings of a name: the string, or an object that maps it to `null`. -/
inductive Names (name : String) : Json → Prop
  | string : Names name (.str name)
  | object : Names name (.object [(.text name, .null)])

/-- A name is read as the element of the list that it stands for. -/
theorem variant?_of_names {α : Type} {all : List α} {name : α → String} {a : α} {j : Json}
    (hnames : (all.map name).Nodup) (hmem : a ∈ all) (h : Names (name a) j) :
    j.variant? all name = some a := by
  have hfind : (all.find? fun b => name b = name a) = some a := by
    cases hb : all.find? fun b => name b = name a with
    | none =>
        have hnone := List.find?_eq_none.1 hb a hmem
        simp at hnone
    | some b =>
        have hname := List.find?_some hb
        rw [List.inj_on_of_nodup_map hnames (List.mem_of_find?_eq_some hb) hmem
          (of_decide_eq_true hname)]
  cases h with
  | string => exact hfind
  | object => exact hfind

theorem natBelow?_nat {n bound : Nat} (h : n < bound) : (nat n).natBelow? bound = some n :=
  if_pos h

theorem int32?_integer (code : Int32) : (integer code.toInt).int32? = some code := by
  have hrange : -0x80000000 ≤ code.toInt ∧ code.toInt < 0x80000000 :=
    ⟨code.le_toInt, code.toInt_lt⟩
  rw [int32?, if_pos hrange, Int32.ofInt_toInt]

theorem option?_of_ne_null {α : Type} {f : Json → Option α} {j : Json} (h : j ≠ .null) :
    j.option? f = (f j).map some := by
  cases j with
  | null => exact absurd rfl h
  | _ => rfl

end Json

/-! ### The types of the library -/

namespace Address

/-- The spelling of an address. -/
def Spelled (a : Address) (j : Json) : Prop :=
  j = a.toJson

theorem ofJson?_of_spelled {a : Address} {j : Json} (h : a.Spelled j) : ofJson? j = some a := by
  subst h
  rw [ofJson?, toJson, Json.natBelow?_nat a.toNat_lt]
  simp

end Address

namespace Extent

/-- The spellings of an extent. -/
def Spelled (e : Extent) : Json → Prop :=
  Json.Spells [("x", .nat e.x.toNat), ("y", .nat e.y.toNat), ("z", .nat e.z.toNat)]

theorem sizeOfJson?_nat (n : UInt32) : sizeOfJson? (.nat n.toNat) = some n := by
  rw [sizeOfJson?, Json.natBelow?_nat n.toNat_lt_size]
  simp

theorem ofJson?_of_spelled {e : Extent} {j : Json} (h : e.Spelled j) : ofJson? j = some e := by
  have hfields := Json.fields?_of_spells false (by simp) h
  simp only [List.map] at hfields
  rw [ofJson?, hfields]
  simp [sizeOfJson?_nat]

end Extent

namespace Geometry

/-- The spellings of a geometry. -/
def Spelled (g : Geometry) (j : Json) : Prop :=
  ∃ grid block, g.grid.Spelled grid ∧ g.block.Spelled block ∧
    Json.Spells [("grid", grid), ("block", block)] j

theorem spelled_toJson (g : Geometry) : g.Spelled g.toJson :=
  ⟨_, _, Json.spells_record _, Json.spells_record _, Json.spells_record _⟩

theorem ofJson?_of_spelled {g : Geometry} {j : Json} (h : g.Spelled j) : ofJson? j = some g := by
  obtain ⟨grid, block, hgrid, hblock, hj⟩ := h
  have hfields := Json.fields?_of_spells false (by simp) hj
  simp only [List.map] at hfields
  rw [ofJson?, hfields]
  simp [Extent.ofJson?_of_spelled hgrid, Extent.ofJson?_of_spelled hblock]

end Geometry

namespace Duration

/-- The spellings of a duration. -/
def Spelled (d : Duration) : Json → Prop :=
  Json.Spells [("secs", .nat d.secs.toNat), ("nanos", .nat d.nanos.toNat)]

/-- A duration is made of its parts. -/
theorem ofParts?_self (d : Duration) : ofParts? d.secs.toNat d.nanos.toNat = some d := by
  have hnanos : d.nanos.toNat < nanosPerSec := d.nanos_lt
  have hpos : 0 < nanosPerSec := by decide
  have hsecs : (d.secs.toNat * nanosPerSec + d.nanos.toNat) / nanosPerSec = d.secs.toNat := by
    rw [Nat.add_comm, Nat.add_mul_div_right _ _ hpos, Nat.div_eq_of_lt hnanos, Nat.zero_add]
  have hrest : (d.secs.toNat * nanosPerSec + d.nanos.toNat) % nanosPerSec = d.nanos.toNat := by
    rw [Nat.add_comm, Nat.add_mul_mod_self_right, Nat.mod_eq_of_lt hnanos]
  have hbound : d.secs.toNat < Word.bound := d.secs.toNat_lt_size
  unfold ofParts? ofNanos?
  simp only [hsecs, hrest, if_pos hbound, UInt64.ofNat_toNat, UInt32.ofNat_toNat]

theorem ofJson?_of_spelled {d : Duration} {j : Json} (h : d.Spelled j) : ofJson? j = some d := by
  have hfields := Json.fields?_of_spells true (by simp) h
  simp only [List.map] at hfields
  have hsecs := Json.natBelow?_nat d.secs.toNat_lt_size
  have hnanos := Json.natBelow?_nat d.nanos.toNat_lt_size
  rw [ofJson?, hfields]
  exact Option.bind_eq_some_iff.2 ⟨_, hsecs, Option.bind_eq_some_iff.2 ⟨_, hnanos, ofParts?_self d⟩⟩

end Duration

namespace Timings

/-- The spellings of the entry of a phase: `null` if it did not run. -/
def EntrySpelled : Option Duration → Json → Prop
  | none, j => j = .null
  | some d, j => d.Spelled j

/-- The spellings of timings. -/
def Spelled (t : Timings) (j : Json) : Prop :=
  ∃ entry : Phase → Json, (∀ p, EntrySpelled (t.get p) (entry p)) ∧
    Json.Spells (Phase.all.map fun p => (p.text, entry p)) j

theorem entrySpelled_option (o : Option Duration) :
    EntrySpelled o (.option Duration.toJson o) := by
  cases o with
  | none => rfl
  | some d => exact Json.spells_record _

theorem spelled_toJson (t : Timings) : t.Spelled t.toJson :=
  ⟨fun p => .option Duration.toJson (t.get p), fun _ => entrySpelled_option _,
    Json.spells_record _⟩

theorem entryOfJson?_of_spelled {o : Option Duration} {j : Json} (h : EntrySpelled o j) :
    entryOfJson? (some j) = some o := by
  cases o with
  | none =>
      cases h
      rfl
  | some d =>
      rw [entryOfJson?, Json.option?_of_ne_null (Json.Spells.ne_null h),
        Duration.ofJson?_of_spelled h]
      rfl

theorem ofJson?_of_spelled {t : Timings} {j : Json} (h : t.Spelled j) : ofJson? j = some t := by
  obtain ⟨entry, hentry, hj⟩ := h
  have hread : ∀ p, entryOfJson? (some (entry p)) = some (t.get p) := fun p =>
    entryOfJson?_of_spelled (hentry p)
  have hfields := Json.fields?_of_spells false (by simp [Phase.all, Phase.text]) hj
  simp only [Phase.all, List.map] at hfields
  rw [ofJson?]
  simp only [Phase.all, List.map, hfields]
  simp [hread]
  rfl

end Timings

/-- The spellings of a phase. -/
def Phase.Spelled (p : Phase) : Json → Prop :=
  Json.Names p.name

theorem Phase.ofJson?_of_spelled {p : Phase} {j : Json} (h : p.Spelled j) : ofJson? j = some p :=
  Json.variant?_of_names (by simp [all, name]) (by cases p <;> simp [all]) h

/-- The spellings of a stage. -/
def Stage.Spelled (s : Stage) : Json → Prop :=
  Json.Names s.name

theorem Stage.ofJson?_of_spelled {s : Stage} {j : Json} (h : s.Spelled j) : ofJson? j = some s :=
  Json.variant?_of_names (by simp [all, name]) (by cases s <;> simp [all]) h

/-- The spellings of a device call. -/
def DeviceCall.Spelled (c : DeviceCall) : Json → Prop :=
  Json.Names c.name

theorem DeviceCall.ofJson?_of_spelled {c : DeviceCall} {j : Json} (h : c.Spelled j) :
    ofJson? j = some c :=
  Json.variant?_of_names (by simp [all, name]) (by cases c <;> simp [all]) h

namespace Status

/-- The spellings of a status. -/
def Spelled : Status → Json → Prop
  | deviceApi code, j => j = .record [("DeviceApi", .integer code.toInt)]
  | status, j => Json.Names status.plainName j

theorem spelled_toJson (s : Status) : s.Spelled s.toJson := by
  cases s with
  | deviceApi code => rfl
  | success => exact .string
  | deviceUnavailable => exact .string

theorem ofJson?_of_spelled {s : Status} {j : Json} (h : s.Spelled j) : ofJson? j = some s := by
  have hplain : ∀ {s : Status} {j : Json}, s ∈ [success, deviceUnavailable] →
      Json.Names s.plainName j → j.variant? [success, deviceUnavailable] plainName = some s :=
    Json.variant?_of_names (by simp [plainName])
  cases s with
  | deviceApi code =>
      cases h
      exact congrArg (Option.map deviceApi) (Json.int32?_integer code)
  | success =>
      have hread := hplain (s := success) (by simp) h
      cases h <;> exact hread
  | deviceUnavailable =>
      have hread := hplain (s := deviceUnavailable) (by simp) h
      cases h <;> exact hread

end Status

/-! ### Reading texts -/

namespace Json

/-- A type whose values are read back: its written form is one of the spellings of a value, and
every spelling is read as the value, with any blanks before and after its text. -/
structure RoundTrips {α : Type} (toJson : α → Json) (Spelled : α → Json → Prop)
    (ofJson? : Json → Option α) : Prop where
  written (a : α) : Spelled a (toJson a)
  read {a : α} {j : Json} (h : Spelled a j) {before after : String}
    (hbefore : ∀ c ∈ before.toList, isSpace c = true)
    (hafter : ∀ c ∈ after.toList, isSpace c = true) :
    (parse? (before ++ j.compact ++ after)).bind ofJson? = some a

theorem roundTrips {α : Type} {toJson : α → Json} {Spelled : α → Json → Prop}
    {ofJson? : Json → Option α} (hwritten : ∀ a, Spelled a (toJson a))
    (hread : ∀ {a j}, Spelled a j → ofJson? j = some a) : RoundTrips toJson Spelled ofJson? where
  written := hwritten
  read h _ _ hbefore hafter := by
    rw [parse?_compact _ hbefore hafter]
    exact hread h

/-- **Every value is read back from each of its spellings.** -/
theorem values_round_trip :
    RoundTrips Address.toJson Address.Spelled Address.ofJson? ∧
      RoundTrips Extent.toJson Extent.Spelled Extent.ofJson? ∧
      RoundTrips Geometry.toJson Geometry.Spelled Geometry.ofJson? ∧
      RoundTrips Phase.toJson Phase.Spelled Phase.ofJson? ∧
      RoundTrips Timings.toJson Timings.Spelled Timings.ofJson? ∧
      RoundTrips Stage.toJson Stage.Spelled Stage.ofJson? ∧
      RoundTrips DeviceCall.toJson DeviceCall.Spelled DeviceCall.ofJson? ∧
      RoundTrips Status.toJson Status.Spelled Status.ofJson? :=
  ⟨roundTrips (fun _ => rfl) Address.ofJson?_of_spelled,
    roundTrips (fun _ => spells_record _) Extent.ofJson?_of_spelled,
    roundTrips Geometry.spelled_toJson Geometry.ofJson?_of_spelled,
    roundTrips (fun _ => .string) Phase.ofJson?_of_spelled,
    roundTrips Timings.spelled_toJson Timings.ofJson?_of_spelled,
    roundTrips (fun _ => .string) Stage.ofJson?_of_spelled,
    roundTrips (fun _ => .string) DeviceCall.ofJson?_of_spelled,
    roundTrips Status.spelled_toJson Status.ofJson?_of_spelled⟩

/-- Timings in which the kernels took the longest time there is. -/
def longestTimings : Timings where
  setup := some ⟨0, 1, by decide⟩
  kernel := some ⟨18446744073709551615, 999999999, by decide⟩

/-- The entries of these timings, one as an array and one with its keys exchanged. -/
def longestEntry : Phase → Json
  | .setup => .object [(.text "nanos", .nat 1), (.text "secs", .nat 0)]
  | .kernel => .array [.nat 18446744073709551615, .nat 999999999]
  | _ => .null

/-- An object with these entries, in reverse order. -/
def longestSpelling : Json :=
  .object [(.text "free_memory", longestEntry .freeMemory), (.text "kernel", longestEntry .kernel),
    (.text "prepare_env", longestEntry .prepareEnv), (.text "setup", longestEntry .setup)]

/-- The longest time is read back from there, between blanks of all kinds. -/
theorem longest_timings_read_back :
    longestTimings.Spelled longestSpelling ∧
      (parse? ("\r\n" ++ longestSpelling.compact ++ "\t ")).bind Timings.ofJson? =
        some longestTimings := by
  have hspelled : longestTimings.Spelled longestSpelling := by
    have hreverse := List.reverse_perm
      (Phase.all.map fun p => (Quoted.text p.text, longestEntry p))
    refine ⟨longestEntry, ?_, .object hreverse⟩
    intro p
    cases p with
    | setup => exact .object (.swap _ _ _)
    | kernel => exact .array
    | prepareEnv => rfl
    | freeMemory => rfl
  obtain ⟨-, -, -, -, htimings, -⟩ := values_round_trip
  exact ⟨hspelled, htimings.read hspelled (List.all_eq_true.1 (by decide +kernel))
    (List.all_eq_true.1 (by decide +kernel))⟩

end Json

end Offload
