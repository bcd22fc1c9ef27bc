/-
  Which numbers `parse_timeout_params` and `parse_timer_params` take as they are.

  Both convert with `(int)PyLong_AsLong(...)` and look neither at the error of the conversion
  nor at what the cast leaves. So a dict is taken exactly or refused exactly when its numbers
  are values of an `int` (`time_params_exact_iff`).
-/
import Uringio.Timer.Timer

namespace Uringio

/-- The number that a dict has under a key. -/
def intField (items : List (String × PyItem)) (key : String) : Option Int :=
  (items.lookup key).bind PyItem.asPyLong

/-- The truth value that a dict has under a key. -/
def boolField (items : List (String × PyItem)) (key : String) : Option Bool :=
  (items.lookup key).bind PyItem.asPyBool

/-- The parser fails with an exception, or it succeeds without one, and the fields are the
    numbers of the dict. -/
def TakenOrRefused {α : Type} (r : Except (Option PyErr) (α × Option PyErr))
    (fields : α → List Int) (given : List (Option Int)) : Prop :=
  match r with
  | .error e => e.isSome = true
  | .ok (params, pending) => pending = none ∧ (fields params).map some = given

/-- `parse_timeout_params` takes the numbers of the dict or refuses it. -/
def TimeoutParams.Exact (items : List (String × PyItem)) : Prop :=
  TakenOrRefused ((parseTimeoutParams (some (.dict items))).mapError some)
    (fun t => [t.sec, t.nsec]) [intField items "sec", intField items "nsec"]

/-- `parse_timer_params` takes the numbers of the dict or refuses it. -/
def TimerParams.Exact (items : List (String × PyItem)) (stream : StreamStrategy) : Prop :=
  TakenOrRefused (parseTimerParams (.dict items) stream) (fun t => [t.sec, t.nsec, t.count])
    [intField items "sec", intField items "nsec", intField items "count"]

/-- A value of type `int`. -/
def IsInt (n : Int) : Prop := -2 ^ 31 ≤ n ∧ n < 2 ^ 31

/-- The numbers of a dict that has every field of a timeout. -/
def TimeoutParams.InRange (items : List (String × PyItem)) : Prop :=
  ∀ sec nsec, intField items "sec" = some sec → intField items "nsec" = some nsec →
    (boolField items "is_required").isSome → IsInt sec ∧ IsInt nsec

/-- The numbers of a dict that has every field of a timer. -/
def TimerParams.InRange (items : List (String × PyItem)) : Prop :=
  ∀ sec nsec count, intField items "sec" = some sec → intField items "nsec" = some nsec →
    intField items "count" = some count → IsInt sec ∧ IsInt nsec ∧ IsInt count

/-! ## One number -/

theorem toInt_toUint64_of_isInt {n : Int} (h : IsInt n) : toInt (toUint64 n) = n := by
  obtain ⟨hlow, hhigh⟩ := h
  unfold toInt toUint64
  split <;> omega

theorem isInt_toInt (x : Nat) : IsInt (toInt x) := by
  unfold IsInt toInt
  split <;> omega

/-- The conversion is right and leaves no exception exactly for a value of type `int`. -/
theorem pyLongAsInt_exact_iff {n : Int} :
    (pyLongAsInt n).2 = none ∧ (pyLongAsInt n).1 = n ↔ IsInt n := by
  constructor
  · rintro ⟨-, hn⟩
    rw [← hn]
    exact isInt_toInt _
  · intro h
    have hlong : pyLongAsLong n = (n, none) := by
      obtain ⟨hlow, hhigh⟩ := h
      unfold pyLongAsLong
      rw [if_pos (by omega)]
    unfold pyLongAsInt
    rw [hlong]
    exact ⟨rfl, toInt_toUint64_of_isInt h⟩

/-! ## The two parsers -/

variable {items : List (String × PyItem)}

theorem parseTimeoutParams_dict {sec nsec : Int} {required : Bool}
    (hs : intField items "sec" = some sec) (hn : intField items "nsec" = some nsec)
    (hr : boolField items "is_required" = some required) :
    parseTimeoutParams (some (.dict items)) =
      .ok (⟨(pyLongAsInt sec).1, (pyLongAsInt nsec).1, required⟩,
        (pyLongAsInt nsec).2.or (pyLongAsInt sec).2) := by
  unfold intField boolField at *
  simp only [parseTimeoutParams, hs, hn, hr]

/-- A dict without one of the fields of a timeout is refused. -/
theorem parseTimeoutParams_incomplete (h : intField items "sec" = none ∨
    intField items "nsec" = none ∨ boolField items "is_required" = none) :
    ∃ e, parseTimeoutParams (some (.dict items)) = .error e := by
  unfold intField boolField at h
  unfold parseTimeoutParams
  dsimp only
  split
  · exact ⟨_, rfl⟩
  · rename_i sec hs
    split
    · exact ⟨_, rfl⟩
    · rename_i nsec hn
      split
      · exact ⟨_, rfl⟩
      · rename_i required hr
        rw [hs, hn, hr] at h
        exact absurd h (by simp)

theorem parseTimerParams_dict {sec nsec count : Int} (stream : StreamStrategy)
    (hs : intField items "sec" = some sec) (hn : intField items "nsec" = some nsec)
    (hc : intField items "count" = some count) :
    ∃ multishot, parseTimerParams (.dict items) stream =
      .ok (⟨(pyLongAsInt sec).1, (pyLongAsInt nsec).1, (pyLongAsInt count).1, multishot⟩,
        ((pyLongAsInt count).2.or (pyLongAsInt nsec).2).or (pyLongAsInt sec).2) := by
  unfold intField at *
  simp only [parseTimerParams, hs, hn, hc]
  exact ⟨_, rfl⟩

/-- A dict without one of the fields of a timer is refused. -/
theorem parseTimerParams_incomplete (stream : StreamStrategy) (h : intField items "sec" = none ∨
    intField items "nsec" = none ∨ intField items "count" = none) :
    ∃ e, parseTimerParams (.dict items) stream = .error (some e) := by
  unfold intField at h
  unfold parseTimerParams
  dsimp only
  split
  · rename_i sec nsec count hs hn hc
    rw [hs, hn, hc] at h
    exact absurd h (by simp)
  · exact ⟨_, rfl⟩

theorem TimeoutParams.exact_iff : TimeoutParams.Exact items ↔ TimeoutParams.InRange items := by
  unfold Exact InRange
  cases hs : intField items "sec" with
  | none =>
    obtain ⟨e, he⟩ := parseTimeoutParams_incomplete (.inl hs)
    rw [he]
    exact ⟨fun _ _ _ h => absurd h (by simp), fun _ => rfl⟩
  | some sec =>
    cases hn : intField items "nsec" with
    | none =>
      obtain ⟨e, he⟩ := parseTimeoutParams_incomplete (.inr (.inl hn))
      rw [he]
      exact ⟨fun _ _ _ _ h => absurd h (by simp), fun _ => rfl⟩
    | some nsec =>
      cases hr : boolField items "is_required" with
      | none =>
        obtain ⟨e, he⟩ := parseTimeoutParams_incomplete (.inr (.inr hr))
        rw [he]
        exact ⟨fun _ _ _ _ _ h => absurd h (by simp), fun _ => rfl⟩
      | some required =>
        rw [parseTimeoutParams_dict hs hn hr]
        have hsec := pyLongAsInt_exact_iff (n := sec)
        have hnsec := pyLongAsInt_exact_iff (n := nsec)
        simp only [TakenOrRefused, Except.mapError, Option.or_eq_none_iff, List.map_cons,
          List.map_nil, List.cons.injEq, Option.some.injEq, and_true]
        constructor
        · intro h a b ha hb _
          obtain rfl := ha
          obtain rfl := hb
          exact ⟨hsec.mp ⟨h.1.2, h.2.1⟩, hnsec.mp ⟨h.1.1, h.2.2⟩⟩
        · intro h
          obtain ⟨h1, h2⟩ := h sec nsec rfl rfl rfl
          exact ⟨⟨(hnsec.mpr h2).1, (hsec.mpr h1).1⟩, (hsec.mpr h1).2, (hnsec.mpr h2).2⟩

theorem TimerParams.exact_iff {stream : StreamStrategy} :
    TimerParams.Exact items stream ↔ TimerParams.InRange items := by
  unfold Exact InRange
  cases hs : intField items "sec" with
  | none =>
    obtain ⟨e, he⟩ := parseTimerParams_incomplete stream (.inl hs)
    rw [he]
    exact ⟨fun _ _ _ _ h => absurd h (by simp), fun _ => rfl⟩
  | some sec =>
    cases hn : intField items "nsec" with
    | none =>
      obtain ⟨e, he⟩ := parseTimerParams_incomplete stream (.inr (.inl hn))
      rw [he]
      exact ⟨fun _ _ _ _ _ h => absurd h (by simp), fun _ => rfl⟩
    | some nsec =>
      cases hc : intField items "count" with
      | none =>
        obtain ⟨e, he⟩ := parseTimerParams_incomplete stream (.inr (.inr hc))
        rw [he]
        exact ⟨fun _ _ _ _ _ _ h => absurd h (by simp), fun _ => rfl⟩
      | some count =>
        obtain ⟨multishot, he⟩ := parseTimerParams_dict stream hs hn hc
        rw [he]
        have hsec := pyLongAsInt_exact_iff (n := sec)
        have hnsec := pyLongAsInt_exact_iff (n := nsec)
        have hcount := pyLongAsInt_exact_iff (n := count)
        simp only [TakenOrRefused, Option.or_eq_none_iff, List.map_cons, List.map_nil,
          List.cons.injEq, Option.some.injEq, and_true]
        constructor
        · intro h a b c ha hb hc'
          obtain rfl := ha
          obtain rfl := hb
          obtain rfl := hc'
          exact ⟨hsec.mp ⟨h.1.2, h.2.1⟩, hnsec.mp ⟨h.1.1.2, h.2.2.1⟩,
            hcount.mp ⟨h.1.1.1, h.2.2.2⟩⟩
        · intro h
          obtain ⟨h1, h2, h3⟩ := h sec nsec count rfl rfl rfl
          exact ⟨⟨⟨(hcount.mpr h3).1, (hnsec.mpr h2).1⟩, (hsec.mpr h1).1⟩, (hsec.mpr h1).2,
            (hnsec.mpr h2).2, (hcount.mpr h3).2⟩

/-- For every dict: its numbers are taken or it is refused exactly when those of a complete
    dict are values of an `int`. -/
theorem time_params_exact_iff (items : List (String × PyItem)) (stream : StreamStrategy) :
    (TimeoutParams.Exact items ↔ TimeoutParams.InRange items) ∧
      (TimerParams.Exact items stream ↔ TimerParams.InRange items) :=
  ⟨TimeoutParams.exact_iff, TimerParams.exact_iff⟩

/-- A timeout of 2^32 seconds is taken as none at all; one of 2^63 seconds, and such a count
    of a timer, as -1 with an exception pending. -/
theorem large_numbers_change :
    (¬ TimeoutParams.Exact [("sec", .int (2 ^ 32)), ("nsec", .int 0), ("is_required", .bool false)] ∧
      (parseTimeoutParams (some (.dict [("sec", .int (2 ^ 32)), ("nsec", .int 0),
        ("is_required", .bool false)]))).toOption = some (.zero, none)) ∧
    ¬ TimeoutParams.Exact [("sec", .int (2 ^ 63)), ("nsec", .int 0), ("is_required", .bool false)] ∧
    ¬ TimerParams.Exact [("sec", .int 1), ("nsec", .int 0), ("count", .int (2 ^ 63))] .oneshot := by
  refine ⟨⟨fun h => ?_, by decide⟩, fun h => ?_, fun h => ?_⟩
  · exact absurd h.2 (by decide)
  · exact absurd h.1 (by decide)
  · exact absurd h.1 (by decide)

end Uringio
