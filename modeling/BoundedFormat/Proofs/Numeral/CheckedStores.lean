import BoundedFormat.Numeral.FixedPoint

/-!
# Writing with every access checked

The same writing once more, store by store: each byte goes into the cell behind the run, and there
is no result if there is no such cell (`push?`), nor if cells are asked for from an index that lies
behind the last one (`cellsFrom?`). Each loop looks at its room itself. None of this ever fails:
what comes of it is the run that the total functions write (`storeWord?_eq`, `storeFraction?_eq`,
`storeFloat?_eq`).
-/

namespace BoundedFormat

namespace DigitRun

/-! ## Stores -/

/-- Where there is room a store is a push. -/
theorem push?_eq_some {run : DigitRun} (b : UInt8) (h : run.length < run.cells.size) :
    run.push? b = some (run.push b) := by
  rw [push, push?, dif_pos h]
  rfl

/-- A store that is made if there is room for it. -/
def storeIfRoom? (run : DigitRun) (b : UInt8) : Option DigitRun :=
  if run.length < run.cells.size then run.push? b else some run

/-- Looking for room first, no store fails. -/
theorem storeIfRoom?_eq (run : DigitRun) (b : UInt8) : run.storeIfRoom? b = some (run.push b) := by
  rw [storeIfRoom?]
  split
  · next hroom => exact push?_eq_some b hroom
  · next hfull => rw [push_of_full b (by omega)]

/-! ## Integers -/

/-- Store the digits of a word for as long as there is room. -/
def storeDigits? (run : DigitRun) (radix : Radix) (n : UInt64) : Option DigitRun :=
  if n ≠ 0 ∧ run.length < run.cells.size then
    let base := UInt64.ofNat radix.base
    (run.push? (digitByte (n % base).toNat)).bind fun longer =>
      longer.storeDigits? radix (n / base)
  else some run
termination_by n.toNat
decreasing_by
  rename_i h
  have hn : n.toNat ≠ 0 := fun h0 => h.1 (UInt64.toNat_inj.1 (by simpa using h0))
  rw [UInt64.toNat_div]
  cases radix <;> exact Nat.div_lt_self (by omega) (by decide)

/-- Store a word from the first cell on; zero is the single digit `0`, and without cells there is
nothing to do. -/
def storeWord? (cells : Array UInt8) (radix : Radix) (n : UInt64) : Option DigitRun :=
  if cells.isEmpty then some (ofCells cells)
  else if n = 0 then (ofCells cells).push? Ascii.zero
  else (ofCells cells).storeDigits? radix n

/-- With room for it a digit is pushed, and the rest of the word behind it. -/
theorem pushDigits64_of_room {run : DigitRun} (radix : Radix) {n : UInt64} (hn : n ≠ 0)
    (h : run.length < run.cells.size) :
    run.pushDigits64 radix n =
      (run.push (digitByte (n % UInt64.ofNat radix.base).toNat)).pushDigits64 radix
        (n / UInt64.ofNat radix.base) := by
  conv => lhs; rw [pushDigits64, if_neg hn]
  simp only [push?_eq_some _ h]

/-- Without room no digit is pushed. -/
theorem pushDigits64_of_full {run : DigitRun} (radix : Radix) (n : UInt64)
    (h : run.cells.size ≤ run.length) : run.pushDigits64 radix n = run := by
  have hfull (b : UInt8) : run.push? b = none := by rw [push?, dif_neg (by omega)]
  rw [pushDigits64]
  simp only [hfull, ite_self]

/-- No digit is stored outside the cells. -/
theorem storeDigits?_eq (run : DigitRun) (radix : Radix) (n : UInt64) :
    run.storeDigits? radix n = some (run.pushDigits64 radix n) := by
  fun_induction storeDigits? run radix n with
  | case1 run n h base ih =>
    rw [push?_eq_some _ h.2, Option.bind_some, ih, pushDigits64_of_room radix h.1 h.2]
  | case2 run n h =>
    by_cases hn : n = 0
    · rw [pushDigits64, if_pos hn]
    · have hfull : run.cells.size ≤ run.length := Nat.not_lt.1 fun hroom => h ⟨hn, hroom⟩
      rw [pushDigits64_of_full radix n hfull]

/-- No digit of a word is stored outside the cells. -/
theorem storeWord?_eq (cells : Array UInt8) (radix : Radix) (n : UInt64) :
    storeWord? cells radix n = some ((ofCells cells).writeWord64 radix n) := by
  have hwrite : (ofCells cells).writeWord64 radix n = (ofCells cells).pushWord64 radix n := rfl
  rw [storeWord?, hwrite, pushWord64]
  split
  · next hempty =>
    have hfull : (ofCells cells).cells.size ≤ (ofCells cells).length :=
      Nat.le_of_eq (Array.isEmpty_iff_size_eq_zero.1 hempty)
    rw [push_of_full _ hfull, pushDigits64_of_full radix n hfull, ite_self]
  · next hempty =>
    have hroom : (ofCells cells).length < (ofCells cells).cells.size :=
      Nat.pos_of_ne_zero fun hsize => hempty (Array.isEmpty_iff_size_eq_zero.2 hsize)
    rw [push?_eq_some _ hroom, storeDigits?_eq]
    split <;> rfl

/-! ## Fractions -/

/-- Store zeros until none is missing or there is no room. -/
def storeZeros? : (missing : Nat) → (run : DigitRun) → Option DigitRun
  | 0, run => some run
  | missing + 1, run =>
    if run.length < run.cells.size then
      (run.push? Ascii.zero).bind (storeZeros? missing)
    else some run

/-- Store the places of a fraction and the point from the first cell on; no place, no point. -/
def storeFraction? (cells : Array UInt8) (fraction : Float) (precision : Nat) : Option DigitRun :=
  let places := min precision maxPlaces
  if places = 0 then some (ofCells cells)
  else
    (storeWord? cells .decimal (roundedFraction fraction places)).bind fun digits =>
      (storeZeros? (places - digits.length) digits).bind fun padded =>
        padded.storeIfRoom? Ascii.point

/-- No zero is stored outside the cells. -/
theorem storeZeros?_eq (missing : Nat) (run : DigitRun) :
    storeZeros? missing run = some (run.pushAll (List.replicate missing Ascii.zero)) := by
  induction missing generalizing run with
  | zero => rfl
  | succ missing ih =>
    rw [storeZeros?]
    split
    · next hroom =>
      rw [push?_eq_some _ hroom, Option.bind_some, ih, List.replicate_succ, pushAll_cons]
    · next hfull => rw [pushAll_of_full _ (Nat.not_lt.1 hfull)]

/-- Nothing of a fraction is stored outside the cells. -/
theorem storeFraction?_eq (cells : Array UInt8) (fraction : Float) (precision : Nat) :
    storeFraction? cells fraction precision =
      some ((ofCells cells).writeFraction fraction precision) := by
  simp only [storeFraction?, writeFraction, storeWord?_eq, storeZeros?_eq, storeIfRoom?_eq,
    Option.bind_some]
  split <;> rfl

/-! ## Values -/

/-- The cells from an index on; `none` if the index lies behind the last one. -/
def cellsFrom? (cells : Array UInt8) (start : Nat) : Option (Array UInt8) :=
  if start ≤ cells.size then some (cells.extract start) else none

/-- Store the fraction of a value, and its integer part into the cells behind. -/
def storeFloat? (cells : Array UInt8) (value : Float) (precision : Nat) : Option DigitRun :=
  let whole := value.toUInt64
  (storeFraction? cells (value - whole.toFloat) precision).bind fun fraction =>
    (cellsFrom? fraction.cells fraction.length).bind fun behind =>
      (storeWord? behind .decimal whole).map fun integer =>
        ⟨fraction.cells.extract 0 fraction.length ++ integer.cells,
          fraction.length + integer.length⟩

/-- A push into the last of some cells is a push into all of them, as many places further on. -/
theorem push_append (front : Array UInt8) (run : DigitRun) (b : UInt8) :
    (DigitRun.mk (front ++ run.cells) (front.size + run.length)).push b =
      ⟨front ++ (run.push b).cells, front.size + (run.push b).length⟩ := by
  by_cases hroom : run.length < run.cells.size
  · have hroom' : front.size + run.length < (front ++ run.cells).size := by
      rw [Array.size_append]
      omega
    simp only [push, push?, dif_pos hroom, dif_pos hroom', Option.getD_some,
      Array.set_append_right hroom' (Nat.le_add_right _ _), Nat.add_sub_cancel_left]
    rfl
  · have hfull : (front ++ run.cells).size ≤ front.size + run.length := by
      rw [Array.size_append]
      omega
    rw [push_of_full b hfull, push_of_full b (Nat.not_lt.1 hroom)]

/-- So is a row of pushes. -/
theorem pushAll_append_cells (front : Array UInt8) (run : DigitRun) (bytes : Bytes) :
    (DigitRun.mk (front ++ run.cells) (front.size + run.length)).pushAll bytes =
      ⟨front ++ (run.pushAll bytes).cells, front.size + (run.pushAll bytes).length⟩ := by
  induction bytes generalizing run with
  | nil => rfl
  | cons b rest ih => rw [pushAll_cons, pushAll_cons, push_append, ih]

/-- A run can be pushed onto by pushing into the cells behind it. -/
theorem pushAll_eq_append {run : DigitRun} (h : run.length ≤ run.cells.size) (bytes : Bytes) :
    let behind := (ofCells (run.cells.extract run.length)).pushAll bytes
    run.pushAll bytes =
      ⟨run.cells.extract 0 run.length ++ behind.cells, run.length + behind.length⟩ := by
  have hsize : (run.cells.extract 0 run.length).size = run.length := by
    rw [Array.size_extract, Nat.min_eq_left h, Nat.sub_zero]
  have hcells : run.cells.extract 0 run.length ++ run.cells.extract run.length = run.cells := by
    rw [Array.extract_append_extract, Nat.zero_min, Nat.max_eq_right h, Array.extract_size]
  have hpush := pushAll_append_cells (run.cells.extract 0 run.length)
    (ofCells (run.cells.extract run.length)) bytes
  rw [hsize] at hpush
  simp only [ofCells, hcells, Nat.add_zero] at hpush ⊢
  exact hpush

/-- Nothing of a value is stored outside the cells. -/
theorem storeFloat?_eq (cells : Array UInt8) (value : Float) (precision : Nat) :
    storeFloat? cells value precision = some ((ofCells cells).writeFloat value precision) := by
  rw [storeFloat?, writeFloat, storeFraction?_eq, Option.bind_some]
  generalize hrun :
    (ofCells cells).writeFraction (value - value.toUInt64.toFloat) precision = run
  have hle : run.length ≤ run.cells.size := by
    have hempty : (ofCells cells).clear.length = 0 := rfl
    rw [← hrun, writeFraction_eq_pushAll, length_pushAll, size_cells_pushAll]
    omega
  rw [cellsFrom?, if_pos hle, Option.bind_some, storeWord?_eq, Option.map_some, writeWord64,
    pushWord64_eq_pushAll, pushWord64_eq_pushAll, pushAll_eq_append hle]
  rfl

end DigitRun

end BoundedFormat
