import DeskCalculator.FilePath
import Mathlib

/-!
# A path is its text

Reading a path drops what does not matter, and writing it puts a single slash between the names that
are left.  So a path that was read is read again from what is written of it, and nothing more is
dropped.

* `not_mem_of_mem_piecesAt` — no piece has a mark in it.
* `piecesAt_joinWith` — pieces without marks are what a list is cut into that joins them.
* `FilePath.IsRead` — a path as it is read, which is what reading gives.
* `FilePath.IsRead.ofCodePoints_text` — a path that was read is the path that its text gives.
-/

namespace DeskCalculator

/-! ## Cutting and joining -/

section Pieces

variable {α : Type} {isMark : α → Bool} {mark : α} {begun s rest piece : List α}
  {pieces : List (List α)}

/-- No piece has a mark in it. -/
theorem not_mem_of_mem_piecesAt (hbegun : ∀ a ∈ begun, isMark a = false)
    (hpiece : piece ∈ piecesAt isMark begun s) : ∀ a ∈ piece, isMark a = false := by
  induction s generalizing begun with
  | nil =>
    rw [piecesAt, List.mem_singleton] at hpiece
    rw [hpiece]
    exact fun a ha => hbegun a (List.mem_reverse.1 ha)
  | cons b s ih =>
    rw [piecesAt] at hpiece
    split at hpiece
    next =>
      rcases List.mem_cons.1 hpiece with rfl | hpiece
      · exact fun a ha => hbegun a (List.mem_reverse.1 ha)
      · exact ih (by simp) hpiece
    next hmark =>
      exact ih (List.forall_mem_cons.2 ⟨Bool.eq_false_iff.2 hmark, hbegun⟩) hpiece

/-- A list goes on with the first piece up to a mark. -/
theorem piecesAt_append (hs : ∀ a ∈ s, isMark a = false) (begun rest : List α) :
    piecesAt isMark begun (s ++ rest) = piecesAt isMark (s.reverse ++ begun) rest := by
  induction s generalizing begun with
  | nil => rfl
  | cons a s ih =>
    obtain ⟨ha, hs⟩ := List.forall_mem_cons.1 hs
    rw [List.cons_append, piecesAt, if_neg (by simp [ha]), ih hs, List.reverse_cons,
      List.append_assoc, List.singleton_append]

/-- Pieces without marks are what a list is cut into that joins them with a mark. -/
theorem piecesAt_joinWith (hmark : isMark mark = true) (hne : pieces ≠ [])
    (hpieces : ∀ piece ∈ pieces, ∀ a ∈ piece, isMark a = false) :
    piecesAt isMark [] (joinWith [mark] pieces) = pieces := by
  induction pieces with
  | nil => exact absurd rfl hne
  | cons piece pieces ih =>
    obtain ⟨hpiece, hpieces⟩ := List.forall_mem_cons.1 hpieces
    cases pieces with
    | nil =>
      rw [joinWith, ← List.append_nil piece, piecesAt_append hpiece, piecesAt]
      simp
    | cons next pieces =>
      rw [joinWith, List.append_assoc, piecesAt_append hpiece, List.singleton_append, piecesAt,
        if_pos hmark, ih (by simp) hpieces]
      · simp
      · simp

/-- Marks in front cut off empty pieces. -/
theorem piecesAt_replicate (hmark : isMark mark = true) (n : Nat) (s : List α) :
    piecesAt isMark [] (List.replicate n mark ++ s) =
      List.replicate n [] ++ piecesAt isMark [] s := by
  induction n with
  | zero => rfl
  | succ n ih =>
    rw [List.replicate_succ, List.cons_append, piecesAt, if_pos hmark, ih, List.replicate_succ]
    rfl

end Pieces

/-! ## Paths -/

namespace FilePath

variable {s : CodePoints} {p : FilePath}

/-- The slash between names. -/
def slash : Nat := '/'.toNat

/-- A path as it is read: a root of at most two slashes, and names without slashes that count. -/
structure IsRead (p : FilePath) : Prop where
  root_eq : ∃ n ≤ 2, p.root = List.replicate n '/'
  counts : ∀ name ∈ p.names, isName name = true
  noSlash : ∀ name ∈ p.names, ∀ c ∈ name, isSlash c = false

theorem isRead_ofCodePoints (s : CodePoints) : (ofCodePoints s).IsRead where
  root_eq := by
    show ∃ n ≤ 2, rootOf s = List.replicate n '/'
    unfold rootOf
    split
    · exact ⟨0, by decide, rfl⟩
    · exact ⟨2, by decide, rfl⟩
    · exact ⟨1, by decide, rfl⟩
  counts := fun _ hname => (List.mem_filter.1 hname).2
  noSlash := fun _ hname =>
    not_mem_of_mem_piecesAt (by simp) (List.mem_of_mem_filter hname)

/-- What is written of the names begins with no slash, and is nothing only without names. -/
theorem IsRead.joinWith_names (h : p.IsRead) :
    (p.names = [] ∧ joinWith [slash] p.names = []) ∨
      ∃ c tail, joinWith [slash] p.names = c :: tail ∧ isSlash c = false := by
  cases hnames : p.names with
  | nil => exact .inl ⟨rfl, rfl⟩
  | cons name rest =>
    have hmem : name ∈ p.names := by
      rw [hnames]
      exact List.mem_cons_self
    have hname := h.counts name hmem
    cases name with
    | nil => cases hname
    | cons c tail =>
      have hc := h.noSlash _ hmem c List.mem_cons_self
      cases rest with
      | nil => exact .inr ⟨c, tail, rfl, hc⟩
      | cons next rest => exact .inr ⟨c, _, rfl, hc⟩

/-- The root is found again in front of a text that begins with no slash. -/
theorem rootOf_replicate {n : Nat} (hn : n ≤ 2) (hs : ∀ c ∈ s.head?, isSlash c = false) :
    rootOf (List.replicate n slash ++ s) = List.replicate n '/' := by
  have hslashes : ∀ c ∈ List.replicate n slash, isSlash c = true := by
    intro c hc
    rw [List.eq_of_mem_replicate hc]
    rfl
  rw [rootOf, (takeWhile_dropWhile_append hslashes hs).1, List.length_replicate]
  match n, hn with
  | 0, _ | 1, _ | 2, _ => rfl

/-- The names are found again behind the root. -/
theorem IsRead.filter_piecesAt (h : p.IsRead) (n : Nat) :
    (piecesAt isSlash [] (List.replicate n slash ++ joinWith [slash] p.names)).filter isName =
      p.names := by
  have hempty : (List.replicate n ([] : CodePoints)).filter isName = [] := by
    simp [isName]
  rw [piecesAt_replicate rfl, List.filter_append, hempty, List.nil_append]
  by_cases hne : p.names = []
  · rw [hne]
    rfl
  · rw [piecesAt_joinWith rfl hne h.noSlash, List.filter_eq_self]
    exact h.counts

/-- **A path is its text**: what is written of a path that was read gives the same path. -/
theorem IsRead.ofCodePoints_text (h : p.IsRead) : ofCodePoints p.text = p := by
  obtain ⟨n, hn, hroot⟩ := h.root_eq
  have hcodes : codePoints p.root = List.replicate n slash := by
    rw [hroot, codePoints, List.map_replicate]
    rfl
  have htext : p.text = if (List.replicate n slash ++ joinWith [slash] p.names).isEmpty then
      codePoints ['.'] else List.replicate n slash ++ joinWith [slash] p.names := by
    rw [text, hcodes]
    rfl
  rw [htext]
  split
  next hempty =>
    -- nothing is written of the working directory but its name
    rw [List.isEmpty_iff, List.append_eq_nil_iff, List.replicate_eq_nil_iff] at hempty
    obtain ⟨rfl, hjoined⟩ := hempty
    rcases h.joinWith_names with ⟨hnames, -⟩ | ⟨c, tail, hcons, -⟩
    · obtain ⟨root, names⟩ := p
      subst hroot hnames
      rfl
    · rw [hjoined] at hcons
      cases hcons
  next =>
    have hhead : ∀ c ∈ (joinWith [slash] p.names).head?, isSlash c = false := by
      rcases h.joinWith_names with ⟨-, hnil⟩ | ⟨c, tail, hcons, hc⟩
      · simp [hnil]
      · simpa [hcons] using hc
    rw [ofCodePoints, rootOf_replicate hn hhead, h.filter_piecesAt, ← hroot]

end FilePath

end DeskCalculator
