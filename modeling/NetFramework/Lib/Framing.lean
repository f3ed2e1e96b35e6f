import Mathlib.Data.List.Basic

/-!
# Length-prefixed framing, in one shot and incrementally

A `Framing` says how a stream is cut into frames: `peek` units must be present before the header
is looked at, the header may be refused, and an accepted one consumes `header` units and announces
the length of the body. `parse` cuts a whole stream. `resume` continues from a body of which only
a part has been seen; its three moves (`resume_header`, `resume_short`, `resume_complete`) are
what an incremental receiver does between two reads.
-/

namespace NetFramework.Lib

/-- How a stream of `α` is cut into frames. -/
structure Framing (α : Type*) where
  peek : ℕ
  header : ℕ
  accepts : List α → Bool
  bodySize : List α → ℕ
  header_pos : 0 < header
  header_le : header ≤ peek

namespace Framing

variable {α : Type*} (F : Framing α)

/-- The bodies of a whole stream, and whether a refused header ended it. -/
def parse (bs : List α) : List (List α) × Bool :=
  if _h : bs.length < F.peek then ([], false)
  else if F.accepts (bs.take F.peek) then
    if (bs.drop F.header).length < F.bodySize (bs.take F.peek) then ([], false)
    else
      ((bs.drop F.header).take (F.bodySize (bs.take F.peek)) ::
          (parse ((bs.drop F.header).drop (F.bodySize (bs.take F.peek)))).1,
        (parse ((bs.drop F.header).drop (F.bodySize (bs.take F.peek)))).2)
  else ([], true)
termination_by bs.length
decreasing_by
  all_goals
    have h1 := F.header_pos
    have h2 := F.header_le
    simp only [List.length_drop]
    omega

/-- The rest of a stream: `pending` is the number of units a started body still misses and the
part of it already seen. -/
def resume (pending : Option (ℕ × List α)) (bs : List α) : List (List α) × Bool :=
  match pending with
  | none => F.parse bs
  | some (missing, got) =>
    if bs.length < missing then ([], false)
    else ((got ++ bs.take missing) :: (F.parse (bs.drop missing)).1,
      (F.parse (bs.drop missing)).2)

/-- No move is left: the header, or the body, is not complete yet. -/
def Stalled (pending : Option (ℕ × List α)) (bs : List α) : Prop :=
  match pending with
  | none => bs.length < F.peek
  | some (missing, _) => bs.length < missing

variable {F}

theorem parse_short {bs : List α} (h : bs.length < F.peek) : F.parse bs = ([], false) := by
  rw [parse, dif_pos h]

theorem parse_refused {bs : List α} (h : F.peek ≤ bs.length)
    (ha : F.accepts (bs.take F.peek) = false) : F.parse bs = ([], true) := by
  rw [parse, dif_neg (by omega), if_neg (by simp [ha])]

@[simp] theorem resume_none (bs : List α) : F.resume none bs = F.parse bs := rfl

/-- An accepted header starts a body. -/
theorem resume_header {bs : List α} (h : F.peek ≤ bs.length)
    (ha : F.accepts (bs.take F.peek) = true) :
    F.resume none bs = F.resume (some (F.bodySize (bs.take F.peek), [])) (bs.drop F.header) := by
  rw [resume_none, parse, dif_neg (by omega), if_pos ha]
  rfl

/-- Units short of the end of the body are added to what has been seen of it. -/
theorem resume_short {missing : ℕ} {got xs : List α} (h : xs.length < missing) (ys : List α) :
    F.resume (some (missing, got)) (xs ++ ys) =
      F.resume (some (missing - xs.length, got ++ xs)) ys := by
  unfold resume
  simp only [List.length_append]
  by_cases hy : xs.length + ys.length < missing
  · rw [if_pos hy, if_pos (by omega)]
  · rw [if_neg hy, if_neg (by omega), List.take_append, List.drop_append,
      List.take_of_length_le (by omega), List.drop_of_length_le (by omega), List.nil_append,
      List.append_assoc]

/-- A complete body is delivered, and the next header follows it. -/
theorem resume_complete {missing : ℕ} {got bs : List α} (h : missing ≤ bs.length) :
    F.resume (some (missing, got)) bs =
      ((got ++ bs.take missing) :: (F.resume none (bs.drop missing)).1,
        (F.resume none (bs.drop missing)).2) := by
  unfold resume
  simp only
  rw [if_neg (by omega)]

theorem resume_of_stalled {pending : Option (ℕ × List α)} {bs : List α}
    (h : F.Stalled pending bs) : F.resume pending bs = ([], false) := by
  cases pending with
  | none => exact parse_short h
  | some p =>
    unfold Stalled at h
    unfold resume
    simp only
    rw [if_pos h]

/-- The frame of a body: a header that announces it, then the body. -/
def IsFrame (F : Framing α) (frame body : List α) : Prop :=
  ∀ ys, F.peek ≤ (frame ++ ys).length ∧ F.accepts ((frame ++ ys).take F.peek) = true ∧
    F.bodySize ((frame ++ ys).take F.peek) = body.length ∧ frame.drop F.header = body ∧
    F.header ≤ frame.length

theorem parse_frame {frame body : List α} (h : F.IsFrame frame body) (ys : List α) :
    F.parse (frame ++ ys) = (body :: (F.parse ys).1, (F.parse ys).2) := by
  obtain ⟨hpeek, hacc, hsize, hdrop, hle⟩ := h ys
  rw [← resume_none, resume_header hpeek hacc, hsize, List.drop_append_of_le_length hle, hdrop,
    resume_complete (by simp)]
  simp

/-- **Round trip.** A stream of whole frames is cut into exactly their bodies, in order. -/
theorem parse_flatten_frames {ι : Type*} (frame body : ι → List α) (l : List ι)
    (h : ∀ i ∈ l, F.IsFrame (frame i) (body i)) :
    F.parse (l.map frame).flatten = (l.map body, false) := by
  induction l with
  | nil =>
    have := F.header_pos
    have := F.header_le
    exact parse_short (by simp; omega)
  | cons i l ih =>
    rw [List.map_cons, List.flatten_cons, parse_frame (h i (List.mem_cons_self ..)),
      ih fun j hj => h j (List.mem_cons_of_mem i hj)]
    rfl

/-- A frame is its header and its body. -/
theorem IsFrame.length_eq {frame body : List α} (h : F.IsFrame frame body) :
    frame.length = F.header + body.length := by
  obtain ⟨-, -, -, hdrop, hle⟩ := h []
  rw [← hdrop, List.length_drop]
  omega

/-- A frame that has not arrived completely gives nothing yet. -/
theorem parse_short_frame {frame body xs : List α} (h : F.IsFrame frame body) {zs : List α}
    (hxs : xs <+: frame ++ zs) (hshort : xs.length < frame.length) : F.parse xs = ([], false) := by
  by_cases hpeek : xs.length < F.peek
  · exact parse_short hpeek
  obtain ⟨hlength, hacc, hsize, -, -⟩ := h zs
  have htake : (frame ++ zs).take F.peek = xs.take F.peek := by
    rw [List.prefix_iff_eq_take.mp hxs, List.take_take, Nat.min_eq_left (by omega)]
  rw [htake] at hacc hsize
  rw [← resume_none, resume_header (by omega) hacc, hsize]
  refine resume_of_stalled ?_
  have := h.length_eq
  have := F.header_le
  show (xs.drop F.header).length < body.length
  rw [List.length_drop]
  omega

/-- The beginning of a stream of whole frames: the bodies of the frames that have arrived
completely, and no header is refused. -/
theorem parse_prefix_frames {ι : Type*} (frame body : ι → List α) (l : List ι)
    (h : ∀ i ∈ l, F.IsFrame (frame i) (body i)) {xs : List α} (hxs : xs <+: (l.map frame).flatten) :
    ∃ k ≤ l.length, F.parse xs = ((l.take k).map body, false) ∧
      (k < l.length → xs.length < ((l.take (k + 1)).map frame).flatten.length) := by
  induction l generalizing xs with
  | nil =>
    have := F.header_pos
    have := F.header_le
    obtain rfl := List.prefix_nil.mp hxs
    exact ⟨0, Nat.le_refl 0, parse_short (by rw [List.length_nil]; omega), fun hlt => absurd hlt (by simp)⟩
  | cons i l ih =>
    have hframe := h i List.mem_cons_self
    rw [List.map_cons, List.flatten_cons] at hxs
    by_cases hshort : xs.length < (frame i).length
    · refine ⟨0, Nat.zero_le _, parse_short_frame hframe hxs hshort, fun _ => ?_⟩
      simpa using hshort
    · -- the first frame is there
      obtain ⟨ys, rfl⟩ : frame i <+: xs :=
        List.prefix_of_prefix_length_le (List.prefix_append _ _) hxs (by omega)
      have hys : ys <+: (l.map frame).flatten := (List.prefix_append_right_inj _).mp hxs
      obtain ⟨k, hk, hparse, hnext⟩ := ih (fun j hj => h j (List.mem_cons_of_mem i hj)) hys
      refine ⟨k + 1, Nat.succ_le_succ hk, ?_, fun hlt => ?_⟩
      · rw [parse_frame hframe, hparse, List.take_succ_cons, List.map_cons]
      · have := hnext (Nat.lt_of_succ_lt_succ hlt)
        rw [List.take_succ_cons, List.map_cons, List.flatten_cons, List.length_append,
          List.length_append]
        omega

/-- The frames of a stream: the units by which the header has been accepted, and the body. -/
def frames (bs : List α) : List (List α × List α) :=
  if _h : bs.length < F.peek then []
  else if F.accepts (bs.take F.peek) then
    if (bs.drop F.header).length < F.bodySize (bs.take F.peek) then []
    else
      (bs.take F.peek, (bs.drop F.header).take (F.bodySize (bs.take F.peek))) ::
        frames ((bs.drop F.header).drop (F.bodySize (bs.take F.peek)))
  else []
termination_by bs.length
decreasing_by
  have h1 := F.header_pos
  have h2 := F.header_le
  simp only [List.length_drop]
  omega

theorem frames_short {bs : List α} (h : bs.length < F.peek) : F.frames bs = [] := by
  rw [frames, dif_pos h]

theorem frames_cons {bs : List α} (h : F.peek ≤ bs.length)
    (ha : F.accepts (bs.take F.peek) = true)
    (hb : F.bodySize (bs.take F.peek) ≤ (bs.drop F.header).length) :
    F.frames bs = (bs.take F.peek, (bs.drop F.header).take (F.bodySize (bs.take F.peek))) ::
      F.frames ((bs.drop F.header).drop (F.bodySize (bs.take F.peek))) := by
  rw [frames, dif_neg (by omega), if_pos ha, if_neg (by omega)]

/-- The bodies of the frames are what `parse` cuts off. -/
theorem map_snd_frames (bs : List α) : (F.frames bs).map Prod.snd = (F.parse bs).1 := by
  induction bs using frames.induct with
  | case1 bs hlt => rw [frames_short hlt, parse_short hlt]; rfl
  | case2 bs hlt hacc hshort =>
    rw [frames, parse, dif_neg hlt, dif_neg hlt, if_pos hacc, if_pos hacc, if_pos hshort,
      if_pos hshort]
    rfl
  | case3 bs hlt hacc hshort ih =>
    rw [frames_cons (by omega) hacc (by omega), parse, dif_neg hlt, if_pos hacc, if_neg hshort,
      List.map_cons, ih]
  | case4 bs hlt hacc => rw [frames, parse, dif_neg hlt, dif_neg hlt, if_neg hacc, if_neg hacc]; rfl

/-- The header of a frame has been accepted and says how long the body is. What is looked at behind
the header is the beginning of the body, and of whatever follows it if the body is too short. -/
theorem mem_frames {bs : List α} {frame : List α × List α} (h : frame ∈ F.frames bs) :
    F.accepts frame.1 = true ∧ frame.2.length = F.bodySize frame.1 ∧
      ∃ rest, F.peek - F.header ≤ (frame.2 ++ rest).length ∧
        frame.1.drop F.header = (frame.2 ++ rest).take (F.peek - F.header) := by
  induction bs using frames.induct with
  | case1 bs hlt =>
    rw [frames_short hlt] at h
    cases h
  | case2 bs hlt hacc hshort =>
    rw [frames, dif_neg hlt, if_pos hacc, if_pos hshort] at h
    cases h
  | case3 bs hlt hacc hshort ih =>
    rw [frames_cons (by omega) hacc (by omega)] at h
    rcases List.mem_cons.mp h with rfl | h
    · refine ⟨hacc, ?_, (bs.drop F.header).drop (F.bodySize (bs.take F.peek)), ?_, ?_⟩
      · exact (List.length_take ..).trans (Nat.min_eq_left (Nat.le_of_not_lt hshort))
      · rw [List.take_append_drop, List.length_drop]
        omega
      · rw [List.take_append_drop, List.drop_take]
    · exact ih h
  | case4 bs hlt hacc =>
    rw [frames, dif_neg hlt, if_neg hacc] at h
    cases h

end Framing

end NetFramework.Lib
