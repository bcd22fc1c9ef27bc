/-
  The pool of registered buffer indices of a FIXED context
  (`src/buffer_controllers/buffer_index.c`): an array stack. `getBufferIdx` pops, and
  returns -1 on an empty stack; `releaseBufferIdx` pushes whatever index it is given, and
  returns -1 only when the stack is full.
-/
import Uringio.Lib.IndexPool
import Uringio.Ring.Ring

namespace Uringio

structure FixedBufferIdxRegistry where
  availableIndices : List Int
  top : Int
  size : Nat
deriving DecidableEq, Repr

def defaultBufferIdxRegistrySize : Nat := 128

def bufferIdxRegistryCreate (size : Nat) : FixedBufferIdxRegistry :=
  let size := if size = 0 then defaultBufferIdxRegistrySize else size
  { availableIndices := Lib.indices size, top := toInt size - 1, size := size }

/-- `buffer_idx_registry_destroy` leaves an empty registry behind. -/
def bufferIdxRegistryDestroy (_reg : FixedBufferIdxRegistry) : FixedBufferIdxRegistry :=
  { availableIndices := [], top := -1, size := 0 }

def getBufferIdx (reg : FixedBufferIdxRegistry) : Int × FixedBufferIdxRegistry :=
  if reg.top < 0 then (-1, reg)
  else
    let index := reg.availableIndices.getD reg.top.toNat default
    (index, { reg with top := reg.top - 1 })

def releaseBufferIdx (reg : FixedBufferIdxRegistry) (index : Int) : Int × FixedBufferIdxRegistry :=
  if reg.top + 1 ≥ toInt reg.size then (-1, reg)
  else
    (0, { reg with
      top := reg.top + 1
      availableIndices := reg.availableIndices.set (reg.top + 1).toNat index })

namespace FixedBufferIdxRegistry

/-- The indices that can be handed out. -/
def free (reg : FixedBufferIdxRegistry) : List Int := Lib.occupied reg.availableIndices reg.top

/-- The registry is one of `n` buffers and its top lies in the array. -/
structure WellFormed (n : Nat) (reg : FixedBufferIdxRegistry) : Prop where
  size : reg.size = n
  length : reg.availableIndices.length = n
  small : n < 2 ^ 31
  low : -1 ≤ reg.top
  high : reg.top < n

variable {n : Nat} {reg : FixedBufferIdxRegistry}

theorem create_eq (h0 : 0 < n) (h : n < 2 ^ 31) :
    bufferIdxRegistryCreate n = ⟨Lib.indices n, n - 1, n⟩ := by
  have hn : n ≠ 0 := by omega
  unfold bufferIdxRegistryCreate
  rw [if_neg hn]
  dsimp only
  rw [toInt_of_lt h]

theorem create_wellFormed (h0 : 0 < n) (h : n < 2 ^ 31) :
    (bufferIdxRegistryCreate n).WellFormed n := by
  rw [create_eq h0 h]
  have hlow : (-1 : Int) ≤ (n : Int) - 1 := by omega
  have hhigh : (n : Int) - 1 < n := by omega
  exact ⟨rfl, Lib.length_indices n, h, hlow, hhigh⟩

/-- A new registry has every index free. -/
theorem create_free (h0 : 0 < n) (h : n < 2 ^ 31) :
    (bufferIdxRegistryCreate n).free = Lib.indices n := by
  have hfull := Lib.occupied_full (Lib.indices n)
  rw [Lib.length_indices] at hfull
  rw [create_eq h0 h]
  exact hfull

theorem free_eq_nil_iff (h : reg.WellFormed n) : reg.free = [] ↔ reg.top < 0 := by
  constructor
  · intro he
    have := Lib.length_occupied h.low (h.length ▸ h.high)
    rw [free] at he
    rw [he] at this
    simp at this
    omega
  · exact Lib.occupied_of_neg

/-- An exhausted pool returns -1 and stays as it is. -/
theorem getBufferIdx_of_empty (h : reg.WellFormed n) (he : reg.free = []) :
    getBufferIdx reg = (-1, reg) := by
  unfold getBufferIdx
  rw [if_pos ((free_eq_nil_iff h).mp he)]

/-- Otherwise the last free index is handed out. -/
theorem getBufferIdx_of_free (h : reg.WellFormed n) (he : reg.free ≠ []) :
    (getBufferIdx reg).2.WellFormed n ∧
      reg.free = (getBufferIdx reg).2.free ++ [(getBufferIdx reg).1] := by
  have htop : ¬ reg.top < 0 := fun ht => he ((free_eq_nil_iff h).mpr ht)
  have hhigh := h.high
  unfold getBufferIdx
  rw [if_neg htop]
  refine ⟨⟨h.size, h.length, h.small, by simp; omega, by simp; omega⟩, ?_⟩
  exact Lib.occupied_pop (by omega) (h.length ▸ h.high)

/-- A registry that is not full takes the index it is given. -/
theorem releaseBufferIdx_of_room (h : reg.WellFormed n) (hr : reg.free.length < n) (index : Int) :
    (releaseBufferIdx reg index).2.WellFormed n ∧
      (releaseBufferIdx reg index).2.free = reg.free ++ [index] := by
  have hlen := Lib.length_occupied h.low (h.length ▸ h.high)
  have hlow := h.low
  unfold free at hr
  have hsmall : ¬ reg.top + 1 ≥ toInt reg.size := by
    rw [h.size, toInt_of_lt h.small]
    omega
  unfold releaseBufferIdx
  rw [if_neg hsmall]
  refine ⟨⟨h.size, ?_, h.small, by simp; omega, by simp; omega⟩, ?_⟩
  · simpa using h.length
  · exact Lib.occupied_push h.low (by rw [h.length]; omega) index

/-- A full registry refuses every index. -/
theorem releaseBufferIdx_of_full (h : reg.WellFormed n) (hr : reg.free.length = n) (index : Int) :
    releaseBufferIdx reg index = (-1, reg) := by
  have hlen := Lib.length_occupied h.low (h.length ▸ h.high)
  unfold free at hr
  unfold releaseBufferIdx
  rw [if_pos]
  rw [h.size, toInt_of_lt h.small]
  omega

theorem WellFormed.get (h : reg.WellFormed n) : (getBufferIdx reg).2.WellFormed n := by
  by_cases he : reg.free = []
  · rw [getBufferIdx_of_empty h he]
    exact h
  · exact (getBufferIdx_of_free h he).1

theorem WellFormed.release (h : reg.WellFormed n) (index : Int) :
    (releaseBufferIdx reg index).2.WellFormed n := by
  have hlen := Lib.length_occupied h.low (h.length ▸ h.high)
  have hhigh := h.high
  by_cases hr : reg.free.length = n
  · rw [releaseBufferIdx_of_full h hr]
    exact h
  · refine (releaseBufferIdx_of_room h ?_ index).1
    unfold free at hr ⊢
    omega

end FixedBufferIdxRegistry

end Uringio
