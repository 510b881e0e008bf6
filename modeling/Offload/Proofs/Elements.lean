/-
**Access to one element.**

A kernel reads and writes the elements of an array one by one, each at the place that its number and
its width give.  The place is computed in machine words, so there are four ways for an access to
end: the address is not live, the place cannot be computed, the element does not lie inside the
buffer, or the access succeeds.  The last one is the only one in which anything changes, and then
only the bytes of the element do.

The size of a buffer need not be a multiple of the width.  The elements that can be written are
those that lie inside as a whole, and these are the ones that a kernel counts.

Main definitions:

* `Offload.Memory.Measured` — the sizes of all buffers are machine words;
* `Offload.Memory.overflow` — how the computation of a place panics;
* `Offload.Memory.withElement` — a memory with one element overwritten.

Main results:

* `Offload.Memory.offset_of_overflow` — the places that cannot be computed;
* `Offload.Memory.getElem?_splice_of_outside`, `Offload.Memory.extract_splice` — the bytes outside
  and inside of what is overwritten;
* `Offload.Kernel.access_cases` — the four ways for an access to end;
* `Offload.Kernel.access_to_an_element` — **how an access to an element ends, and what it leaves
  alone**.
-/

import Offload.Proofs.KernelUnits

set_option autoImplicit false

namespace Offload

namespace Memory

/-! ### Sizes -/

/-- The sizes of all buffers are machine words. -/
def Measured (m : Memory) : Prop :=
  ∀ b ∈ m.buffers, b.bytes.size < Word.bound

theorem Measured.size_lt {m : Memory} (h : m.Measured) {address : Address} {b : Buffer}
    (hfind : m.find? address = some b) : b.bytes.size < Word.bound :=
  h b (mem_of_find?_eq_some hfind).1

theorem Measured.congr {m m' : Memory} (h : m.Measured) (hlayout : m'.layout = m.layout) :
    m'.Measured := by
  intro b hb
  have hmem : (⟨b.address, b.bytes.size⟩ : Allocation) ∈ m.layout := by
    rw [← hlayout]
    exact mem_layout_iff.2 ⟨b, hb, rfl, rfl⟩
  obtain ⟨b', hb', -, hsize⟩ := mem_layout_iff.1 hmem
  have hlt := h b' hb'
  rwa [hsize] at hlt

/-- A kernel resizes no buffers. -/
theorem Measured.run {β : Type} {m : Memory} (h : m.Measured) (k : Kernel β) :
    (k.run m).2.Measured :=
  h.congr (k.run_layout m).1

/-- Nothing larger is ever allocated. -/
theorem measured_of_ordered {d : Emulated} (h : d.Ordered) : d.memory.Measured := by
  intro b hb
  have hsmall := h.small ⟨b.address, b.bytes.size⟩ (mem_layout_iff.2 ⟨b, hb, rfl, rfl⟩)
  exact Nat.lt_of_le_of_lt hsmall (by decide)

/-! ### Places -/

section Places

variable {width index : Nat}

/-- How the computation of a place panics: the first byte of the element is computed first. -/
def overflow (width index : Nat) : Panic :=
  if index * width < Word.bound then .addOverflow else .mulOverflow

theorem offset_of_overflow (h : Word.bound ≤ index * width + width) (size : Nat) :
    offset width index size = .panic (overflow width index) := by
  unfold offset overflow Word.mul
  by_cases hstart : index * width < Word.bound
  · rw [if_pos hstart, if_pos hstart, Outcome.ok_bind, Word.add, if_neg (Nat.not_lt.2 h)]
    rfl
  · rw [if_neg hstart, if_neg hstart]
    rfl

end Places

/-! ### Overwriting -/

section Overwriting

variable {buffer : Array UInt8} {start : Nat} {bytes : List UInt8}

/-- Overwriting leaves alone what lies before and behind. -/
theorem getElem?_splice_of_outside {n : Nat} (h : n < start ∨ start + bytes.length ≤ n) :
    (splice buffer start bytes)[n]? = buffer[n]? := by
  induction bytes generalizing buffer start with
  | nil => rfl
  | cons byte rest ih =>
      rw [List.length_cons] at h
      have hne : start ≠ n := by omega
      have houtside : n < start + 1 ∨ start + 1 + rest.length ≤ n := by omega
      rw [splice, ih houtside, Array.getElem?_setIfInBounds_ne hne]

/-- What was overwritten is read back. -/
theorem extract_splice (h : start + bytes.length ≤ buffer.size) :
    ((splice buffer start bytes).extract start (start + bytes.length)).toList = bytes := by
  have hstart : (buffer.toList.take start).length = start := by
    rw [List.length_take, Array.length_toList]
    omega
  rw [Array.toList_extract, toList_splice h, List.extract_eq_take_drop, Nat.add_sub_cancel_left,
    List.append_assoc, List.drop_left' hstart, List.take_left]

end Overwriting

/-! ### Bytes -/

section Bytes

variable {m : Memory} {address : Address} {b : Buffer} {width index : Nat} {bytes : List UInt8}

theorem read_of_absent (h : m.find? address = none) :
    m.read address width index = .error (.invalidHandle address) := by
  unfold read Memory.bytes
  rw [h]
  rfl

theorem write_of_absent (h : m.find? address = none) :
    m.write address index bytes = (.error (.invalidHandle address), m) := by
  unfold write size size?
  rw [h]
  rfl

/-- A place that is not found is reported to the reader. -/
theorem read_eq_offset (h : m.find? address = some b) :
    m.read address width index = (offset width index b.bytes.size >>= fun start =>
      pure (b.bytes.extract start (start + width)).toList) := by
  unfold read Memory.bytes
  rw [h]
  rfl

theorem write_of_panic {p : Panic} (h : m.find? address = some b)
    (hplace : offset bytes.length index b.bytes.size = .panic p) :
    m.write address index bytes = (.panic p, m) := by
  unfold write
  rw [size_of_find? h, Outcome.ok_bind, hplace]

end Bytes

end Memory

/-! ### Elements -/

namespace Memory

variable {α : Type} [Pod α] {m : Memory} {address : Address} {i : Nat} {b : Buffer} {a : α}

/-- A memory with one element of an array overwritten. -/
def withElement (m : Memory) (address : Address) (i : Nat) (a : α) : Memory :=
  m.update address fun buffer => splice buffer (i * Pod.width α) (Pod.encode a)

theorem find?_withElement_self (h : m.find? address = some b) (i : Nat) (a : α) :
    (m.withElement address i a).find? address =
      some { b with bytes := splice b.bytes (i * Pod.width α) (Pod.encode a) } :=
  find?_update_self h _

theorem find?_withElement_of_ne {other : Address} (h : other ≠ address) (i : Nat) (a : α) :
    (m.withElement address i a).find? other = m.find? other :=
  find?_update_of_ne h.symm _

end Memory

namespace Kernel

section Elements

variable {α : Type} [Pod α] {m : Memory} {address : Address} {i : Nat} {b : Buffer}

theorem run_lengthOf (address : Address) (m : Memory) :
    (lengthOf α address).run m =
      (.ok ((m.size? address).map (elementCount (Pod.width α))), m) :=
  rfl

/-- An address that is not live is refused. -/
theorem access_of_absent (h : m.find? address = none) (i : Nat) (a : α) :
    (read address i : Kernel α).run m = (.error (.invalidHandle address), m) ∧
      (write address i a).run m = (.error (.invalidHandle address), m) := by
  rw [run_read_eq, run_write_eq, Memory.read_of_absent h, Memory.write_of_absent h]
  exact ⟨rfl, rfl⟩

/-- An element that does not lie inside the buffer is refused, with both sizes. -/
theorem access_beyond (h : m.find? address = some b)
    (hbeyond : b.bytes.size < (i + 1) * Pod.width α) (hword : (i + 1) * Pod.width α < Word.bound)
    (a : α) :
    (read address i : Kernel α).run m =
        (.error (.sizeMismatch ((i + 1) * Pod.width α) b.bytes.size), m) ∧
      (write address i a).run m =
        (.error (.sizeMismatch ((i + 1) * Pod.width α) b.bytes.size), m) := by
  rw [Nat.succ_mul] at hbeyond hword ⊢
  have hplace := Memory.offset_of_beyond hbeyond hword
  rw [run_read_eq, run_write_eq, Memory.read_eq_offset h, hplace,
    Memory.write_of_error h (by rw [Pod.length_encode]; exact hplace)]
  exact ⟨rfl, rfl⟩

/-- An element whose place cannot be computed makes the kernel panic. -/
theorem access_of_overflow (h : m.find? address = some b)
    (hover : Word.bound ≤ (i + 1) * Pod.width α) (a : α) :
    (read address i : Kernel α).run m = (.panic (Memory.overflow (Pod.width α) i), m) ∧
      (write address i a).run m = (.panic (Memory.overflow (Pod.width α) i), m) := by
  rw [Nat.succ_mul] at hover
  have hplace := Memory.offset_of_overflow hover b.bytes.size
  rw [run_read_eq, run_write_eq, Memory.read_eq_offset h, hplace,
    Memory.write_of_panic h (by rw [Pod.length_encode]; exact hplace)]
  exact ⟨rfl, rfl⟩

/-- An element that lies inside the buffer is read from its place, and written there. -/
theorem access_inside (h : m.find? address = some b) (hsize : b.bytes.size < Word.bound)
    (hinside : (i + 1) * Pod.width α ≤ b.bytes.size) (a : α) :
    (read address i : Kernel α).run m = (.ok (Pod.decode
        (b.bytes.extract (i * Pod.width α) ((i + 1) * Pod.width α)).toList), m) ∧
      (write address i a).run m = (.ok (), m.withElement address i a) := by
  rw [Nat.succ_mul] at hinside ⊢
  have hencoded : i * (Pod.encode a).length + (Pod.encode a).length ≤ b.bytes.size := by
    rw [Pod.length_encode]
    exact hinside
  rw [run_read_eq, run_write_eq, Memory.read_of_find? h hinside hsize,
    Memory.write_of_find? h hencoded hsize, Pod.length_encode]
  exact ⟨rfl, rfl⟩

/-- What was written is read back. -/
theorem read_withElement (h : m.find? address = some b) (hsize : b.bytes.size < Word.bound)
    (hinside : (i + 1) * Pod.width α ≤ b.bytes.size) (a : α) :
    (read address i : Kernel α).run (m.withElement address i a) =
      (.ok a, m.withElement address i a) := by
  have hlength := Memory.size_splice b.bytes (i * Pod.width α) (Pod.encode a)
  obtain ⟨hread, -⟩ := access_inside (Memory.find?_withElement_self h i a)
    (by rw [hlength]; exact hsize) (by rw [hlength]; exact hinside) a
  rw [Nat.succ_mul] at hinside hread
  have hplace : i * Pod.width α + (Pod.encode a).length ≤ b.bytes.size := by
    rw [Pod.length_encode]
    exact hinside
  have hback := Memory.extract_splice hplace
  rw [Pod.length_encode] at hback
  rw [hread, hback, Pod.decode_encode]

/-- **The four ways for an access to end.** -/
theorem access_cases (hm : m.Measured) (address : Address) (i : Nat) (a : α) :
    (m.find? address = none ∧
        ((read address i : Kernel α).run m).1 = .error (.invalidHandle address) ∧
        ((write address i a).run m).1 = .error (.invalidHandle address)) ∨
      (∃ b, m.find? address = some b ∧ Word.bound ≤ (i + 1) * Pod.width α ∧
        ((read address i : Kernel α).run m).1 = .panic (Memory.overflow (Pod.width α) i) ∧
        ((write address i a).run m).1 = .panic (Memory.overflow (Pod.width α) i)) ∨
      (∃ b e, m.find? address = some b ∧ b.bytes.size < (i + 1) * Pod.width α ∧
        (i + 1) * Pod.width α < Word.bound ∧
        ((read address i : Kernel α).run m).1 = .error e ∧
        ((write address i a).run m).1 = .error e) ∨
      ∃ b value, m.find? address = some b ∧ (i + 1) * Pod.width α ≤ b.bytes.size ∧
        (i + 1) * Pod.width α < Word.bound ∧
        ((read address i : Kernel α).run m).1 = .ok value ∧
        ((write address i a).run m).1 = .ok () := by
  cases hfind : m.find? address with
  | none =>
      obtain ⟨hread, hwrite⟩ := access_of_absent hfind i a
      exact .inl ⟨rfl, congrArg Prod.fst hread, congrArg Prod.fst hwrite⟩
  | some b =>
      have hsize := hm.size_lt hfind
      refine .inr ?_
      rcases Nat.lt_or_ge ((i + 1) * Pod.width α) Word.bound with hword | hover
      · rcases Nat.lt_or_ge b.bytes.size ((i + 1) * Pod.width α) with hbeyond | hinside
        · obtain ⟨hread, hwrite⟩ := access_beyond hfind hbeyond hword a
          exact .inr (.inl ⟨b, _, rfl, hbeyond, hword, congrArg Prod.fst hread,
            congrArg Prod.fst hwrite⟩)
        · obtain ⟨hread, hwrite⟩ := access_inside hfind hsize hinside a
          exact .inr (.inr ⟨b, _, rfl, hinside, hword, congrArg Prod.fst hread,
            congrArg Prod.fst hwrite⟩)
      · obtain ⟨hread, hwrite⟩ := access_of_overflow hfind hover a
        exact .inl ⟨b, rfl, hover, congrArg Prod.fst hread, congrArg Prod.fst hwrite⟩

/-- An access panics iff the address is live and the end of the element is not a machine word. -/
theorem access_panics_iff (hm : m.Measured) (address : Address) (i : Nat) (a : α) :
    ((∃ p, ((read address i : Kernel α).run m).1 = .panic p) ↔
        (∃ b, m.find? address = some b) ∧ Word.bound ≤ (i + 1) * Pod.width α) ∧
      ((∃ p, ((write address i a).run m).1 = .panic p) ↔
        (∃ b, m.find? address = some b) ∧ Word.bound ≤ (i + 1) * Pod.width α) := by
  rcases access_cases hm address i a with ⟨hfind, hread, hwrite⟩ |
    ⟨b, hfind, hover, hread, hwrite⟩ | ⟨b, e, hfind, -, hword, hread, hwrite⟩ |
    ⟨b, value, hfind, -, hword, hread, hwrite⟩
  · simp [hfind, hread, hwrite]
  · simp [hfind, hread, hwrite, hover]
  · simp [hfind, hread, hwrite, hword]
  · simp [hfind, hread, hwrite, hword]

/-- The elements of a buffer are those that lie inside as a whole. -/
theorem lt_elementCount_iff {width size : Nat} (hwidth : 0 < width) :
    i < elementCount width size ↔ (i + 1) * width ≤ size := by
  unfold elementCount
  rw [if_neg (Nat.ne_of_gt hwidth)]
  exact Nat.le_div_iff_mul_le hwidth

/-- The elements that can be written are those that a kernel counts. -/
theorem write_eq_ok_iff (hwidth : 0 < Pod.width α) (hm : m.Measured) (address : Address) (i : Nat)
    (a : α) :
    ((write address i a).run m).1 = .ok () ↔
      ∃ n, (lengthOf α address).run m = (.ok (some n), m) ∧ i < n := by
  have hcount : ∀ b, m.find? address = some b → ((∃ n,
      (lengthOf α address).run m = (.ok (some n), m) ∧ i < n) ↔
        (i + 1) * Pod.width α ≤ b.bytes.size) := by
    intro b hfind
    simp [run_lengthOf, Memory.size?, hfind, lt_elementCount_iff hwidth]
  rcases access_cases hm address i a with ⟨hfind, -, hwrite⟩ | ⟨b, hfind, hover, -, hwrite⟩ |
    ⟨b, e, hfind, hbeyond, -, -, hwrite⟩ | ⟨b, value, hfind, hinside, -, -, hwrite⟩
  · simp [run_lengthOf, Memory.size?, hfind, hwrite]
  · have hsize := hm.size_lt hfind
    rw [hcount b hfind, hwrite]
    exact iff_of_false (by rintro ⟨⟩) (by omega)
  · rw [hcount b hfind, hwrite]
    exact iff_of_false (by rintro ⟨⟩) (Nat.not_le.2 hbeyond)
  · rw [hcount b hfind, hwrite]
    exact iff_of_true rfl hinside

end Elements

/-- **How an access to an element ends, and what it leaves alone.**  Take any memory, any address
and any type whose elements have bytes.

An element that lies inside the buffer at the address can be written, and is then read back; the
buffer keeps its size, and all other bytes and buffers stay what they were.  In all other cases
nothing changes.  An address that is not live is refused; so is an element that ends behind the
buffer, with the size that it asks for and the one that is there; and an access panics iff the
address is live and the end of the element is not a machine word.  The elements that can be written
are those that a kernel counts. -/
theorem access_to_an_element {α : Type} [Pod α] (hwidth : 0 < Pod.width α) {m : Memory}
    (hm : m.Measured) (address : Address) (i : Nat) (a : α) :
    let start := i * Pod.width α
    let stop := (i + 1) * Pod.width α
    let read := (Kernel.read address i : Kernel α).run m
    let write := (Kernel.write address i a).run m
    (∀ b, m.find? address = some b → stop ≤ b.bytes.size →
        write.1 = .ok () ∧ (Kernel.read address i : Kernel α).run write.2 = (.ok a, write.2) ∧
        (∃ b', write.2.find? address = some b' ∧ b'.bytes.size = b.bytes.size ∧
          ∀ n, n < start ∨ stop ≤ n → b'.bytes[n]? = b.bytes[n]?) ∧
        (∀ other, other ≠ address → write.2.find? other = m.find? other) ∧
        write.2.next = m.next) ∧
      (m.find? address = none →
        read = (.error (.invalidHandle address), m) ∧
          write = (.error (.invalidHandle address), m)) ∧
      (∀ b, m.find? address = some b → b.bytes.size < stop → stop < Word.bound →
        read = (.error (.sizeMismatch stop b.bytes.size), m) ∧
          write = (.error (.sizeMismatch stop b.bytes.size), m)) ∧
      (∀ b, m.find? address = some b → Word.bound ≤ stop →
        ∃ p, (p = .mulOverflow ∨ p = .addOverflow) ∧ read = (.panic p, m) ∧
          write = (.panic p, m)) ∧
      ((∃ p, read.1 = .panic p) ↔ (∃ b, m.find? address = some b) ∧ Word.bound ≤ stop) ∧
      ((∃ p, write.1 = .panic p) ↔ (∃ b, m.find? address = some b) ∧ Word.bound ≤ stop) ∧
      (write.1 = .ok () ↔
        ∃ n, (lengthOf α address).run m = (.ok (some n), m) ∧ i < n) := by
  intro start stop read write
  obtain ⟨hread, hwrite⟩ := access_panics_iff hm address i a
  refine ⟨fun b hfind hinside => ?_, fun h => access_of_absent h i a,
    fun b hfind hbeyond hword => access_beyond hfind hbeyond hword a, fun b hfind hover => ?_,
    hread, hwrite, write_eq_ok_iff hwidth hm address i a⟩
  · have hsize := hm.size_lt hfind
    have hdone : write = (.ok (), m.withElement address i a) :=
      (access_inside hfind hsize hinside a).2
    have hstop : stop = start + (Pod.encode a).length := by
      rw [Pod.length_encode]
      exact Nat.succ_mul i _
    rw [hdone]
    refine ⟨rfl, read_withElement hfind hsize hinside a,
      ⟨_, Memory.find?_withElement_self hfind i a, Memory.size_splice .., fun n hn => ?_⟩,
      fun other hne => Memory.find?_withElement_of_ne hne i a, rfl⟩
    rw [hstop] at hn
    exact Memory.getElem?_splice_of_outside hn
  · refine ⟨_, ?_, access_of_overflow hfind hover a⟩
    unfold Memory.overflow
    split
    · exact .inr rfl
    · exact .inl rfl

/-- A buffer of ten bytes in the middle of a launch: two elements of four bytes lie inside, the next
one ends behind it, and from some number on the place of an element cannot be computed. -/
theorem access_in_ten_bytes :
    let d := Emulated.after .off [.call (.select 0), .call .reset, .call (.allocate 10),
      .call (.allocate 3)] (Emulated.fresh 1 none {})
    let first : Address := ⟨0x7f0000000000⟩
    let second : Address := ⟨0x7f0000000100⟩
    let m := ((write first 0 (7 : UInt32)).run d.memory).2
    let written := (write first 1 (0xdeadbeef : UInt32)).run m
    m.Measured ∧ m.find? first = some ⟨first, #[7, 0, 0, 0, 205, 205, 205, 205, 205, 205]⟩ ∧
      written.1 = .ok () ∧
      (read first 1 : Kernel UInt32).run written.2 = (.ok 0xdeadbeef, written.2) ∧
      written.2.find? second = m.find? second ∧
      (write first 2 (1 : UInt32)).run m = (.error (.sizeMismatch 12 10), m) ∧
      (∃ p, (p = .mulOverflow ∨ p = .addOverflow) ∧
        (read first 0x3fffffffffffffff : Kernel UInt32).run m = (.panic p, m)) ∧
      (read ⟨1⟩ 0 : Kernel UInt32).run m = (.error (.invalidHandle ⟨1⟩), m) := by
  intro d first second m written
  have hm : m.Measured :=
    (Memory.measured_of_ordered ((Emulated.Reachable.fresh 1 none {}).after .off _).ordered).run _
  have hfind : m.find? first = some ⟨first, #[7, 0, 0, 0, 205, 205, 205, 205, 205, 205]⟩ := by
    decide +kernel
  have hwidth : 0 < Pod.width UInt32 := by decide
  obtain ⟨hinside, -⟩ := access_to_an_element hwidth hm first 1 0xdeadbeef
  obtain ⟨hok, hback, -, hothers, -⟩ := hinside _ hfind (by decide)
  obtain ⟨-, -, hbeyond, -⟩ := access_to_an_element hwidth hm first 2 1
  obtain ⟨-, -, -, hover, -⟩ := access_to_an_element hwidth hm first 0x3fffffffffffffff 1
  obtain ⟨-, habsent, -⟩ := access_to_an_element hwidth hm ⟨1⟩ 0 1
  obtain ⟨p, hp, hread, -⟩ := hover _ hfind (by decide)
  exact ⟨hm, hfind, hok, hback, hothers second (by decide),
    (hbeyond _ hfind (by decide) (by decide)).2, ⟨p, hp, hread⟩,
    (habsent (by decide +kernel)).1⟩

end Kernel

end Offload
