import ChipEight.Proofs.Memory.Block
import Mathlib.Data.List.Induction

/-!
# Memory follows its history

What memory holds can be told without looking at it: the byte at an address is the value that the
last successful access stored there, and zero if there was none (`Memory.byteAt_after`). So the
calls made so far, with their results, say what every further one yields, for memory of every size
and for calls of all kinds in any order: `Memory.accesses_follow_history`.

The values that an access stores are read off the access alone (`Access.values`). Inside memory all
accesses that store do so in one way, by a block of bytes from their address on
(`Memory.perform_of_inside`): a single byte is a block of one, and clearing is a block of zeros over
all of memory.
-/

namespace ChipEight

/-! ### Accesses -/

/-- A call to memory. Addresses and values are any integers, sizes are those of blocks. -/
inductive Access
  | read (address : Int)
  | readBlock (address : Int) (size : Nat)
  | write (address value : Int)
  | writeBlock (address : Int) (block : List UInt8)
  | zeroBlock (address : Int) (size : Nat)
  | clear
  deriving DecidableEq, Repr

/-- What a call to memory yields: the bytes that it reads, none if it stores, or why it fails. -/
abbrev Access.Result := Except Failure (List UInt8)

namespace Access

/-- The address that an access begins at. -/
def address : Access → Int
  | .read address | .readBlock address _ | .write address _ | .writeBlock address _
  | .zeroBlock address _ => address
  | .clear => 0

/-- The number of bytes that an access to memory of some size is about. -/
def count (size : Nat) : Access → Nat
  | .read _ | .write _ _ => 1
  | .readBlock _ count | .zeroBlock _ count => count
  | .writeBlock _ block => block.length
  | .clear => size

/-- The access reads. -/
def Reads : Access → Prop
  | .read _ | .readBlock _ _ => True
  | _ => False

/-- A value that the access writes is a byte. -/
def WritesByte (access : Access) : Prop :=
  ∀ address value, access = .write address value → 0 ≤ value ∧ value ≤ 255

/-- The values that an access to memory of some size stores from its address on. -/
def values (size : Nat) : Access → List Int
  | .read _ | .readBlock _ _ => []
  | .write _ value => [value]
  | .writeBlock _ block => block.map fun byte ↦ (byte.toNat : Int)
  | .zeroBlock _ count => List.replicate count 0
  | .clear => List.replicate size 0

/-- The value that an access to memory of some size stores at an address, if it stores one there. -/
def value? (size : Nat) (access : Access) (a : Int) : Option Int :=
  if access.address ≤ a then (access.values size)[(a - access.address).toNat]? else none

/-- The value that the last successful one of some calls stored at an address, zero if none did. -/
def lastStored (size : Nat) (calls : List (Access × Result)) (a : Int) : Int :=
  (calls.reverse.findSome? fun call ↦
    if call.2.isOk then call.1.value? size a else none).getD 0

theorem lastStored_concat (size : Nat) (calls : List (Access × Result)) (access : Access)
    (result : Result) (a : Int) : lastStored size (calls ++ [(access, result)]) a =
      (if result.isOk then access.value? size a else none).getD (lastStored size calls a) := by
  rw [lastStored, List.reverse_concat, List.findSome?_cons]
  dsimp only
  generalize (if result.isOk then access.value? size a else none) = value?
  match value? with
  | some _ => rfl
  | none => rfl

/-- The bytes that an access to memory of some size stores. -/
def bytes (size : Nat) (access : Access) : List UInt8 :=
  (access.values size).map fun value ↦ UInt8.ofNat value.toNat

variable {access : Access} {size : Nat}

/-- An access stores no more bytes than it is about. -/
theorem length_bytes_le (access : Access) (size : Nat) :
    (access.bytes size).length ≤ access.count size := by
  match access with
  | .read _ | .readBlock _ _ | .write _ _ | .writeBlock _ _ | .zeroBlock _ _ | .clear =>
    simp [bytes, values, count]

/-- The bytes that an access stores are the values that it stores. -/
theorem map_bytes (h : access.WritesByte) :
    (access.bytes size).map (fun byte ↦ (byte.toNat : Int)) = access.values size := by
  have hbyte : ∀ value ∈ access.values size, 0 ≤ value ∧ value ≤ 255 := by
    intro value hvalue
    match access with
    | .read _ | .readBlock _ _ => exact absurd hvalue List.not_mem_nil
    | .write address _ => exact List.mem_singleton.1 hvalue ▸ h address _ rfl
    | .writeBlock _ block =>
      obtain ⟨byte, -, rfl⟩ := List.mem_map.1 hvalue
      have hlt := byte.toNat_lt
      omega
    | .zeroBlock _ _ | .clear =>
      rw [List.eq_of_mem_replicate hvalue]
      decide
  rw [bytes, List.map_map]
  refine (List.map_congr_left fun value hvalue ↦ ?_).trans (List.map_id _)
  obtain ⟨hzero, hmax⟩ := hbyte value hvalue
  show ((UInt8.ofNat value.toNat).toNat : Int) = value
  rw [UInt8.toNat_ofNat']
  omega

/-- A block of bytes is stored as it is. -/
theorem bytes_writeBlock (address : Int) (block : List UInt8) :
    (Access.writeBlock address block).bytes size = block := by
  rw [bytes, values, List.map_map]
  refine (List.map_congr_left fun byte _ ↦ ?_).trans (List.map_id _)
  show UInt8.ofNat (byte.toNat : Int).toNat = byte
  rw [Int.toNat_natCast, UInt8.ofNat_toNat]

end Access

namespace Memory

variable {m : Memory} {access : Access}

/-! ### Stores with room -/

/-- A byte after a store that has room. -/
theorem byteAt_setBytes {stored a : Nat} {bytes : List UInt8}
    (hroom : stored + bytes.length ≤ m.size) : (m.setBytes stored bytes).byteAt a =
      (if stored ≤ a then bytes[a - stored]? else none).getD (m.byteAt a) := by
  split
  · rename_i hle
    obtain ⟨k, rfl⟩ := Nat.exists_eq_add_of_le hle
    rw [Nat.add_sub_cancel_left]
    by_cases hk : k < bytes.length
    · rw [byteAt_setBytes_of_inside bytes hroom hk, List.getElem?_eq_getElem hk, Option.getD_some]
    · rw [byteAt_setBytes_of_outside bytes (by omega), List.getElem?_eq_none (by omega),
        Option.getD_none]
  · exact byteAt_setBytes_of_outside bytes (by omega)

theorem byteAt_zeroed (size a : Nat) : (zeroed size).byteAt a = 0 := by
  by_cases ha : a < size <;> simp [byteAt, zeroed, ha]

/-- Clearing stores zeros over all of memory. -/
theorem clear_eq_setBytes (m : Memory) : m.clear = m.setBytes 0 (List.replicate m.size 0) := by
  refine (eq_of_byteAt ?_ fun a ha ↦ ?_).symm
  · rw [size_setBytes, size_clear]
  · rw [size_clear] at ha
    rw [byteAt_setBytes (by simp), clear, byteAt_zeroed]
    simp [ha]

/-! ### One access -/

/-- The result of an access that stores, and memory after it. -/
def settle (m : Memory) : Except Failure Memory → Access.Result × Memory
  | .ok stored => (.ok [], stored)
  | .error failure => (.error failure, m)

/-- Carries out an access. -/
def perform (m : Memory) : Access → Access.Result × Memory
  | .read address => ((m.read address).map ([·]), m)
  | .readBlock address size => (m.readBlock address size, m)
  | .write address value => m.settle (m.write address value)
  | .writeBlock address block => m.settle (m.writeBlock address block)
  | .zeroBlock address size => m.settle (m.zeroBlock address size)
  | .clear => m.settle (.ok m.clear)

/-- The failure of an access that leaves memory. -/
def refusal (m : Memory) (access : Access) : Failure :=
  .fault (.memoryAccess access.address (access.count m.size))

/-- What an access inside memory yields. -/
def answer (m : Memory) : Access → List UInt8
  | .read address => m.block address (1 : Nat)
  | .readBlock address size => m.block address size
  | _ => []

/-- An access leaves memory. -/
def Leaves (m : Memory) (access : Access) : Prop :=
  m.Outside access.address (access.count m.size)

theorem not_leaves_clear (m : Memory) : ¬ m.Leaves .clear := by
  simp [Leaves, Outside, Access.address, Access.count]

/-- An access that leaves memory is refused. -/
theorem perform_of_leaves (held : (m.size : Int) < Extent.bound) (h : m.Leaves access) :
    m.perform access = (.error (m.refusal access), m) := by
  match access with
  | .read address =>
    rw [perform, read_eq, if_pos (show m.Outside address 1 from h)]
    rfl
  | .readBlock address size =>
    rw [perform, readBlock_eq, if_pos (show m.Outside address size from h)]
    rfl
  | .write address value =>
    rw [perform, write_eq, if_pos (show m.Outside address 1 from h)]
    rfl
  | .writeBlock address block =>
    rw [perform, writeBlock_eq, if_pos (show m.Outside address block.length from h)]
    rfl
  | .zeroBlock address size =>
    rw [perform, zeroBlock_eq held, if_pos (show m.Outside address size from h)]
    rfl
  | .clear => exact absurd h m.not_leaves_clear

/-- A value that is no byte is refused inside memory. -/
theorem perform_write_of_not_byte {address value : Int} (h : ¬ m.Leaves (.write address value))
    (hbyte : ¬ (0 ≤ value ∧ value ≤ 255)) :
    m.perform (.write address value) = (.error (.notAByte value), m) := by
  rw [perform, write_eq, if_neg (show ¬ m.Outside address 1 from h), if_neg (by omega)]
  rfl

/-- **Inside memory** an access stores its bytes and yields the bytes that it reads. -/
theorem perform_of_inside (held : (m.size : Int) < Extent.bound) (h : ¬ m.Leaves access)
    (hbyte : access.WritesByte) : m.perform access =
      (.ok (m.answer access), m.setBytes access.address.toNat (access.bytes m.size)) := by
  match access with
  | .read address =>
    have hinside : ¬ m.Outside address 1 := h
    have hanswer : m.answer (.read address) = [m.byteAt address.toNat] := block_eq_map h
    rw [perform, read_eq, if_neg hinside, hanswer]
    rfl
  | .readBlock address size =>
    have hinside : ¬ m.Outside address size := h
    rw [perform, readBlock_eq, if_neg hinside]
    rfl
  | .write address value =>
    have hinside : ¬ m.Outside address 1 := h
    have hvalue := hbyte address value rfl
    rw [perform, write_eq, if_neg hinside, if_pos (by omega)]
    rfl
  | .writeBlock address block =>
    have hinside : ¬ m.Outside address block.length := h
    rw [perform, writeBlock_eq, if_neg hinside, Access.bytes_writeBlock]
    rfl
  | .zeroBlock address size =>
    have hinside : ¬ m.Outside address size := h
    rw [perform, zeroBlock_eq held, if_neg hinside, Access.bytes, Access.values,
      List.map_replicate]
    rfl
  | .clear =>
    rw [perform, clear_eq_setBytes, Access.bytes, Access.values, List.map_replicate]
    rfl

/-- An access leaves memory, writes what is no byte inside memory, or succeeds. -/
theorem perform_cases (held : (m.size : Int) < Extent.bound) (access : Access) :
    (m.Leaves access ∧ m.perform access = (.error (m.refusal access), m)) ∨
    (¬ m.Leaves access ∧ ∃ address value, access = .write address value ∧
      ¬ (0 ≤ value ∧ value ≤ 255) ∧ m.perform access = (.error (.notAByte value), m)) ∨
    (¬ m.Leaves access ∧ access.WritesByte ∧ m.perform access =
      (.ok (m.answer access), m.setBytes access.address.toNat (access.bytes m.size))) := by
  by_cases hleaves : m.Leaves access
  · exact .inl ⟨hleaves, perform_of_leaves held hleaves⟩
  · by_cases hbyte : access.WritesByte
    · exact .inr (.inr ⟨hleaves, hbyte, perform_of_inside held hleaves hbyte⟩)
    · have hwrite := hbyte
      simp only [Access.WritesByte, not_forall] at hwrite
      obtain ⟨address, value, rfl, hvalue⟩ := hwrite
      exact .inr (.inl ⟨hleaves, address, value, rfl, hvalue,
        perform_write_of_not_byte hleaves hvalue⟩)

theorem size_perform (held : (m.size : Int) < Extent.bound) (access : Access) :
    (m.perform access).2.size = m.size := by
  obtain ⟨-, h⟩ | ⟨-, _, _, -, -, h⟩ | ⟨-, -, h⟩ := perform_cases held access
  · rw [h]
  · rw [h]
  · rw [h, size_setBytes]

/-- A byte after an access is the value that the access stored there, if it did. -/
theorem byteAt_perform (held : (m.size : Int) < Extent.bound) (access : Access) (a : Nat) :
    (((m.perform access).2.byteAt a).toNat : Int) =
      (if (m.perform access).1.isOk then access.value? m.size a else none).getD
        (m.byteAt a).toNat := by
  obtain ⟨-, h⟩ | ⟨-, _, _, -, -, h⟩ | ⟨hinside, hbyte, h⟩ := perform_cases held access
  · rw [h]
    rfl
  · rw [h]
    rfl
  · have hbounds := hinside
    simp only [Leaves, Outside, not_or, Int.not_lt] at hbounds
    have hlength := access.length_bytes_le m.size
    have hle : access.address ≤ a ↔ access.address.toNat ≤ a := by omega
    have hindex : ((a : Int) - access.address).toNat = a - access.address.toNat := by omega
    rw [h, byteAt_setBytes (by omega)]
    show _ = (access.value? m.size a).getD _
    rw [Access.value?, ← Access.map_bytes hbyte, hindex, List.getElem?_map]
    by_cases ha : access.address.toNat ≤ a
    · rw [if_pos ha, if_pos (hle.2 ha)]
      cases (access.bytes m.size)[a - access.address.toNat]? <;> rfl
    · rw [if_neg ha, if_neg (mt hle.1 ha)]
      rfl

/-- **When an access fails**, and how. -/
theorem perform_eq_error_iff (held : (m.size : Int) < Extent.bound) (access : Access)
    (failure : Failure) : (m.perform access).1 = .error failure ↔
      (m.Leaves access ∧ failure = m.refusal access) ∨
      (¬ m.Leaves access ∧ ∃ address value, access = .write address value ∧
        ¬ (0 ≤ value ∧ value ≤ 255) ∧ failure = .notAByte value) := by
  obtain ⟨hleaves, h⟩ | ⟨hinside, address, value, rfl, hvalue, h⟩ | ⟨hinside, hbyte, h⟩ :=
    perform_cases held access
  · simp [h, hleaves, eq_comm]
  · rw [h]
    refine ⟨fun heq ↦ .inr ⟨hinside, address, value, rfl, hvalue, (Except.error.inj heq).symm⟩, ?_⟩
    rintro (⟨hleaves, -⟩ | ⟨-, _, _, heq, -, rfl⟩)
    · exact absurd hleaves hinside
    · cases heq
      rfl
  · rw [h]
    simp only [reduceCtorEq, false_iff]
    rintro (⟨hleaves, -⟩ | ⟨-, address, value, rfl, hvalue, -⟩)
    · exact hinside hleaves
    · exact hvalue (hbyte address value rfl)

/-- An access that fails leaves memory as it was. -/
theorem perform_of_error (held : (m.size : Int) < Extent.bound) {failure : Failure}
    (h : (m.perform access).1 = .error failure) : (m.perform access).2 = m := by
  obtain ⟨-, heq⟩ | ⟨-, _, _, -, -, heq⟩ | ⟨-, -, heq⟩ := perform_cases held access
  · rw [heq]
  · rw [heq]
  · rw [heq] at h
    cases h

/-- What is read are the bytes at the addresses in turn. -/
theorem perform_reads (held : (m.size : Int) < Extent.bound) (hreads : access.Reads)
    {bytes : List UInt8} (h : (m.perform access).1 = .ok bytes) : 0 ≤ access.address ∧
      bytes = (List.range (access.count m.size)).map fun k ↦
        m.byteAt (access.address.toNat + k) := by
  have hanswer (hinside : ¬ m.Leaves access) : m.answer access =
      (List.range (access.count m.size)).map fun k ↦ m.byteAt (access.address.toNat + k) := by
    match access, hreads with
    | .read _, _ | .readBlock _ _, _ => exact block_eq_map hinside
  obtain ⟨-, heq⟩ | ⟨-, _, _, -, -, heq⟩ | ⟨hinside, -, heq⟩ := perform_cases held access
  · rw [heq] at h
    cases h
  · rw [heq] at h
    cases h
  · rw [heq] at h
    cases h
    exact ⟨Int.not_lt.1 (mt .inl hinside), hanswer hinside⟩

/-! ### Many accesses -/

/-- Memory after some accesses. -/
def after (m : Memory) (accesses : List Access) : Memory :=
  accesses.foldl (fun m access ↦ (m.perform access).2) m

/-- Some accesses with their results. -/
def calls (m : Memory) : List Access → List (Access × Access.Result)
  | [] => []
  | access :: rest => (access, (m.perform access).1) :: (m.perform access).2.calls rest

theorem after_concat (m : Memory) (accesses : List Access) (access : Access) :
    m.after (accesses ++ [access]) = ((m.after accesses).perform access).2 := by
  rw [after, List.foldl_append]
  rfl

theorem calls_concat (m : Memory) (accesses : List Access) (access : Access) :
    m.calls (accesses ++ [access]) =
      m.calls accesses ++ [(access, ((m.after accesses).perform access).1)] := by
  induction accesses generalizing m with
  | nil => rfl
  | cons first rest ih => exact congrArg (_ :: ·) (ih (m.perform first).2)

theorem size_after (held : (m.size : Int) < Extent.bound) (accesses : List Access) :
    (m.after accesses).size = m.size := by
  induction accesses using List.reverseRecOn with
  | nil => rfl
  | append_singleton accesses access ih =>
    rw [after_concat, size_perform (ih ▸ held), ih]

/-- **Memory holds what was stored last**, if it was zero at first. -/
theorem byteAt_after {size : Nat} (held : (size : Int) < Extent.bound)
    (accesses : List Access) (a : Nat) : ((((zeroed size).after accesses).byteAt a).toNat : Int) =
      Access.lastStored size ((zeroed size).calls accesses) a := by
  have hsize : (zeroed size).size = size := Array.size_replicate
  induction accesses using List.reverseRecOn with
  | nil =>
    show (((zeroed size).byteAt a).toNat : Int) = 0
    rw [byteAt_zeroed]
    rfl
  | append_singleton accesses access ih =>
    have hafter := (size_after (hsize.symm ▸ held) accesses).trans hsize
    rw [after_concat, calls_concat, Access.lastStored_concat, byteAt_perform (hafter.symm ▸ held),
      hafter, ih]

/-- What an access does to memory of some size after some calls. -/
structure Serves (m : Memory) (size : Nat) (calls : List (Access × Access.Result))
    (access : Access) : Prop where
  /-- It is refused exactly if it begins below zero or ends past the size. -/
  refused : (m.perform access).1 =
      .error (.fault (.memoryAccess access.address (access.count size))) ↔
    access.address < 0 ∨ access.address + access.count size > size
  /-- A value is found to be no byte exactly if it is none and would be written inside memory. -/
  noByte : ∀ value, (m.perform access).1 = .error (.notAByte value) ↔
    ¬ (access.address < 0 ∨ access.address + access.count size > size) ∧
      ∃ address, access = .write address value ∧ ¬ (0 ≤ value ∧ value ≤ 255)
  /-- It does not fail in any other way. -/
  failure : ∀ failure, (m.perform access).1 = .error failure →
    failure = .fault (.memoryAccess access.address (access.count size)) ∨
      ∃ value, failure = .notAByte value
  /-- If it fails, memory is what it was. -/
  unchanged : ∀ failure, (m.perform access).1 = .error failure → (m.perform access).2 = m
  /-- If it reads, it yields as many bytes as it asks for, and each of them is the value that was
  stored last at its address. -/
  read : access.Reads → ∀ bytes, (m.perform access).1 = .ok bytes →
    bytes.map (fun byte ↦ (byte.toNat : Int)) = (List.range (access.count size)).map fun k : Nat ↦
      Access.lastStored size calls (access.address + k)
  /-- Memory keeps its size. -/
  size : (m.perform access).2.size = size

/-- A memory of some size that holds what was stored last serves every access. -/
theorem serves_of_byteAt {size : Nat} {calls : List (Access × Access.Result)}
    (held : (size : Int) < Extent.bound) (hsize : m.size = size)
    (hbytes : ∀ a : Nat, ((m.byteAt a).toNat : Int) = Access.lastStored size calls a)
    (access : Access) : m.Serves size calls access := by
  subst hsize
  have herror (failure : Failure) := perform_eq_error_iff held access failure
  exact {
    refused := by
      rw [herror]
      simp [refusal, Leaves, Outside]
    noByte := by
      intro value
      rw [herror]
      simp [refusal, Leaves, Outside]
    failure := by
      intro failure h
      obtain ⟨-, rfl⟩ | ⟨-, _, value, -, -, rfl⟩ := (herror failure).1 h
      · exact .inl rfl
      · exact .inr ⟨value, rfl⟩
    unchanged := fun failure ↦ perform_of_error held
    read := by
      intro hreads bytes h
      obtain ⟨hlow, rfl⟩ := perform_reads held hreads h
      rw [List.map_map]
      refine List.map_congr_left fun k _ ↦ ?_
      show ((m.byteAt (access.address.toNat + k)).toNat : Int) = _
      rw [hbytes]
      congr 1
      omega
    size := size_perform held access }

/-- **Memory is a store that checks its bounds.** On every host, a size is refused if it is below
zero or the host does not hold it. Memory of any other size serves every access after any others: it
refuses the access exactly if it leaves memory, and a value exactly if it is no byte and has its
place in memory; what fails changes nothing; and what reads yields exactly the bytes asked for, each
the value that the calls so far stored last at its address. -/
theorem accesses_follow_history (limit size : Int) :
    (∃ failure, create limit size = .error failure ∧ (size < 0 ∨ ¬ Extent.Held limit size)) ∨
    ∃ m, create limit size = .ok m ∧ ∀ earlier access,
      (m.after earlier).Serves size.toNat (m.calls earlier) access := by
  by_cases hneg : size < 0
  · obtain ⟨failure, hfailure⟩ := Extent.exists_ofInt_of_neg hneg
    refine .inl ⟨failure, ?_, .inl hneg⟩
    rw [create, hfailure]
    rfl
  by_cases hheld : Extent.Held limit size
  · have hnonneg := Int.not_lt.1 hneg
    have hcreate : create limit size = .ok (zeroed size.toNat) := by
      rw [create, Extent.ofInt_of_held hnonneg hheld]
      rfl
    have held : (size.toNat : Int) < Extent.bound := (Int.toNat_of_nonneg hnonneg).symm ▸ hheld.2
    refine .inr ⟨zeroed size.toNat, hcreate, fun earlier access ↦ ?_⟩
    have hzeroed : (zeroed size.toNat).size = size.toNat := Array.size_replicate
    have hafter := (size_after (hzeroed.symm ▸ held) earlier).trans hzeroed
    exact serves_of_byteAt held hafter (byteAt_after held earlier) access
  · obtain ⟨failure, hfailure⟩ := Extent.exists_ofInt_of_not_held hheld
    refine .inl ⟨failure, ?_, .inr hheld⟩
    rw [create, hfailure]
    rfl

/-- Blocks that overlap, and stores that fail in between. -/
example : ((zeroed 5).perform (.readBlock 0 5)).1 = .ok [0, 0, 0, 0, 0] ∧
    (((zeroed 5).after [.writeBlock 1 [1, 2, 3], .zeroBlock 2 1, .write 3 256, .writeBlock 4 [7, 8],
      .write 0 255]).perform (.readBlock 0 5)).1 = .ok [255, 1, 0, 3, 0] := by
  decide

end Memory

end ChipEight
