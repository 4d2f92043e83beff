import Mathlib.Data.List.Basic

/-!
Reading a log of self-delimiting frames from its front until one does not read. Frames that read are found
again in front of anything, so what was read once stays readable when more is appended after it.
-/

namespace Foundation

variable {β α ε : Type}

/-- The values a scan found, how many items their frames take, and why it stopped. -/
structure Scan (α ε : Type) where
  values : List α := []
  taken : Nat := 0
  stop : Option ε := none
deriving DecidableEq

namespace Scan

def push (scan : Scan α ε) (value : α) (size : Nat) : Scan α ε :=
  { scan with values := value :: scan.values, taken := size + scan.taken }

end Scan

/-- One frame at a time, as long as they read. -/
def scanLoop (frame : List β → Except ε (α × Nat)) : Nat → List β → Scan α ε
  | 0, _ => {}
  | fuel + 1, items =>
    match frame items with
    | .error stop => { stop := some stop }
    | .ok (value, size) => (scanLoop frame fuel (items.drop size)).push value size

def scan (frame : List β → Except ε (α × Nat)) (items : List β) : Scan α ε :=
  scanLoop frame (items.length + 1) items

/-- A frame is not empty, lies within the items, and reads the same in front of anything else. -/
structure Delimited (frame : List β → Except ε (α × Nat)) : Prop where
  pos : ∀ {items value size}, frame items = .ok (value, size) → 0 < size
  within : ∀ {items value size}, frame items = .ok (value, size) → size ≤ items.length
  stays : ∀ {items value size}, frame items = .ok (value, size) →
    ∀ rest, frame (items.take size ++ rest) = .ok (value, size)

variable {frame : List β → Except ε (α × Nat)}

theorem scan_error {items : List β} {stop : ε} (failed : frame items = .error stop) :
    scan frame items = { stop := some stop } := by
  simp only [scan, scanLoop, failed]

private theorem scanLoop_congr (delimited : Delimited frame) {first second : Nat} {items : List β}
    (enough : items.length < first) (plenty : items.length < second) :
    scanLoop frame first items = scanLoop frame second items := by
  induction first generalizing second items with
  | zero => omega
  | succ first ih =>
    cases second with
    | zero => omega
    | succ second =>
      cases read : frame items with
      | error stop => simp only [scanLoop, read]
      | ok pair =>
        obtain ⟨value, size⟩ := pair
        have pos := delimited.pos read
        have within := delimited.within read
        have shorter : (items.drop size).length < items.length := by
          rw [List.length_drop]
          omega
        have same : scanLoop frame first (items.drop size) = scanLoop frame second (items.drop size) :=
          ih (by omega) (by omega)
        simp only [scanLoop, read, same]

theorem scan_ok (delimited : Delimited frame) {items : List β} {value : α} {size : Nat}
    (read : frame items = .ok (value, size)) :
    scan frame items = (scan frame (items.drop size)).push value size := by
  have pos := delimited.pos read
  have within := delimited.within read
  have shorter : (items.drop size).length < items.length := by
    rw [List.length_drop]
    omega
  have same := scanLoop_congr delimited shorter (Nat.lt_succ_self (items.drop size).length)
  have opened : scan frame items = (scanLoop frame items.length (items.drop size)).push value size := by
    simp only [scan, scanLoop, read]
  rw [opened, same]
  rfl

/-- A scan that goes on where another one stopped. -/
def Scan.append (first second : Scan α ε) : Scan α ε where
  values := first.values ++ second.values
  taken := first.taken + second.taken
  stop := second.stop

theorem Scan.push_append (first second : Scan α ε) (value : α) (size : Nat) :
    (first.push value size).append second = (first.append second).push value size := by
  simp only [Scan.push, Scan.append, List.cons_append, Nat.add_assoc]

/-- The rule of induction over a scan: it stops at once, or one frame reads and the scan goes on after it. -/
theorem scan_induction (delimited : Delimited frame) {motive : List β → Prop}
    (stops : ∀ items stop, frame items = .error stop → motive items)
    (goes : ∀ items value size, frame items = .ok (value, size) → motive (items.drop size) → motive items)
    (items : List β) : motive items := by
  induction length : items.length using Nat.strongRecOn generalizing items with
  | ind n ih =>
    cases read : frame items with
    | error stop => exact stops items stop read
    | ok pair =>
      obtain ⟨value, size⟩ := pair
      have pos := delimited.pos read
      have within := delimited.within read
      refine goes items value size read (ih _ ?_ (items.drop size) rfl)
      rw [List.length_drop]
      omega

theorem scan_taken_le (delimited : Delimited frame) (items : List β) :
    (scan frame items).taken ≤ items.length := by
  induction items using scan_induction delimited with
  | stops items stop failed =>
    rw [scan_error failed]
    exact Nat.zero_le _
  | goes items value size read ih =>
    have within := delimited.within read
    rw [scan_ok delimited read]
    rw [List.length_drop] at ih
    simp only [Scan.push]
    omega

/-- What a scan took is found again in front of anything else, and the scan goes on there. -/
theorem scan_taken_append (delimited : Delimited frame) (items rest : List β) :
    scan frame (items.take (scan frame items).taken ++ rest) = (scan frame items).append (scan frame rest) := by
  induction items using scan_induction delimited with
  | stops items stop failed =>
    simp only [scan_error failed, List.take_zero, List.nil_append, Scan.append, Nat.zero_add]
  | goes items value size read ih =>
    have within := delimited.within read
    have split : items.take ((scan frame items).taken) =
        items.take size ++ (items.drop size).take (scan frame (items.drop size)).taken := by
      rw [scan_ok delimited read]
      simp only [Scan.push]
      rw [List.take_add]
    have first := delimited.stays read ((items.drop size).take (scan frame (items.drop size)).taken ++ rest)
    have dropped : (items.take size ++
        ((items.drop size).take (scan frame (items.drop size)).taken ++ rest)).drop size =
        (items.drop size).take (scan frame (items.drop size)).taken ++ rest := by
      rw [List.drop_append_of_le_length (by rw [List.length_take]; omega)]
      rw [List.drop_eq_nil_of_le (by rw [List.length_take]; omega), List.nil_append]
    rw [split, List.append_assoc, scan_ok delimited first, dropped, ih, ← Scan.push_append]
    rw [← scan_ok delimited read]

/-- A value and the frame it was written as. -/
structure Written (frame : List β → Except ε (α × Nat)) where
  value : α
  items : List β
  reads : ∀ rest, frame (items ++ rest) = .ok (value, items.length)
  torn : ∀ cut < items.length, ∃ stop, frame (items.take cut) = .error stop

def joined (written : List (Written frame)) : List β :=
  written.flatMap Written.items

/-- The values that lie wholly before a cut. -/
def wholly (cut : Nat) : List (Written frame) → List (Written frame)
  | [] => []
  | first :: rest =>
    if first.items.length ≤ cut then first :: wholly (cut - first.items.length) rest else []

theorem scan_joined (delimited : Delimited frame) (written : List (Written frame)) (rest : List β) :
    scan frame (joined written ++ rest) =
      ({ values := written.map Written.value, taken := (joined written).length } : Scan α ε).append
        (scan frame rest) := by
  induction written with
  | nil => simp [joined, Scan.append]
  | cons first others ih =>
    have read := first.reads (joined others ++ rest)
    have split : joined (first :: others) ++ rest = first.items ++ (joined others ++ rest) := by
      simp only [joined, List.flatMap_cons, List.append_assoc]
    rw [split, scan_ok delimited read, List.drop_left, ih]
    simp only [Scan.append, Scan.push, List.map_cons, List.cons_append, joined, List.flatMap_cons,
      List.length_append, Nat.add_assoc]

theorem take_joined (cut : Nat) (written : List (Written frame)) :
    ∃ tail, (joined written).take cut = joined (wholly cut written) ++ tail ∧
      (tail = [] ∨ ∃ torn ∈ written, ∃ short < torn.items.length, tail = torn.items.take short) := by
  induction written generalizing cut with
  | nil => exact ⟨[], by simp [joined, wholly], .inl rfl⟩
  | cons first others ih =>
    by_cases whole : first.items.length ≤ cut
    · obtain ⟨tail, split, ending⟩ := ih (cut - first.items.length)
      refine ⟨tail, ?_, ?_⟩
      · simp only [wholly, whole, if_true]
        simp only [joined, List.flatMap_cons, List.append_assoc] at split ⊢
        rw [List.take_append, List.take_of_length_le whole, split]
      · rcases ending with none | ⟨torn, member, short, less, same⟩
        · exact .inl none
        · exact .inr ⟨torn, by simp [member], short, less, same⟩
    · refine ⟨first.items.take cut, ?_, .inr ⟨first, by simp, cut, by omega, rfl⟩⟩
      simp only [wholly, whole, if_false]
      simp only [joined, List.flatMap_cons, List.flatMap_nil, List.nil_append]
      rw [List.take_append_of_le_length (by omega)]

/-- A scan of a log cut anywhere finds exactly the values that lie wholly before the cut. -/
theorem scan_cut (delimited : Delimited frame) (ends : ∃ stop, frame [] = .error stop) (cut : Nat)
    (written : List (Written frame)) :
    (scan frame ((joined written).take cut)).values = (wholly cut written).map Written.value ∧
      (scan frame ((joined written).take cut)).taken = (joined (wholly cut written)).length := by
  obtain ⟨tail, split, torn⟩ := take_joined cut written
  have stops : ∃ stop, frame tail = .error stop := by
    rcases torn with none | ⟨last, -, short, less, rfl⟩
    · rw [none]
      exact ends
    · exact last.torn short less
  obtain ⟨stop, failed⟩ := stops
  rw [split, scan_joined delimited, scan_error failed]
  simp [Scan.append]

end Foundation
