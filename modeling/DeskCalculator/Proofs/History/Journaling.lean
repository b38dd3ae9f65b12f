import DeskCalculator.Proofs.History.Delivery
import DeskCalculator.Proofs.History.Lines
import DeskCalculator.Proofs.Parser.Stacks

/-!
# A journal and its worker

A journal does what its worker does and writes to its file besides, so it has the worker's past.
As long as nobody disturbs it, its file holds what it held when it was opened, and behind that one
line for each entry of this past that was written.

* `FileTree.read?_write`, `FileTree.overwrite_end` — what is in a file after it was written to.
* `FileTree.read?_of_openForWriting` — what is in a file that was opened.
* `Journal.Keeps` — the invariant of an undisturbed journal.
* `Journal.Keeps.advance` — whatever the worker does keeps it, and the worker goes on until it has
  nothing left to do.
* `Journal.Keeps.notify` — an entry is accepted, however far the worker gets before the next one.
* `Journal.Keeps.close` — after the journal is closed every accepted entry has its line.
-/

namespace DeskCalculator

/-! ## Files -/

namespace FileTree

variable {tree : FileTree} {place : Place} {content text : List Char}

/-- The file of a place is found where its content was replaced. -/
theorem find?_replace {files : List (Place × List Char)} (place : Place) (content : List Char)
    (h : (files.find? (·.1 == place)).isSome = true) :
    (files.map fun f => if f.1 == place then (place, content) else f).find? (·.1 == place) =
      some (place, content) := by
  induction files with
  | nil => cases h
  | cons f files ih =>
    rw [List.map_cons]
    cases hf : f.1 == place with
    | true =>
      rw [if_pos rfl]
      exact List.find?_cons_of_pos (beq_self_eq_true place)
    | false =>
      rw [List.find?_cons, hf] at h
      rw [if_neg Bool.false_ne_true, List.find?_cons, hf]
      exact ih h

/-- A file has the content that it was given. -/
theorem read?_write (tree : FileTree) (place : Place) (content : List Char) :
    (tree.write place content).read? place = some content := by
  have hisFile : tree.isFile place = (tree.files.find? (·.1 == place)).isSome := Option.isSome_map
  unfold write
  rw [hisFile]
  split
  · rename_i hfound
    rw [read?, find?_replace place content hfound]
    rfl
  · rename_i hfound
    rw [read?, List.find?_append, Option.not_isSome_iff_eq_none.1 hfound]
    simp

theorem byteSize_pos (c : Char) : 0 < byteSize c := Char.utf8Size_pos c

theorem takeBytes_textBytes (content : List Char) : takeBytes (textBytes content) content = content := by
  induction content with
  | nil => rfl
  | cons c content ih =>
    rw [textBytes, takeBytes, if_pos (Nat.le_add_right _ _), Nat.add_sub_cancel_left, ih]

theorem dropBytes_eq_nil {n : Nat} (h : textBytes content ≤ n) : dropBytes n content = [] := by
  induction content generalizing n with
  | nil => rfl
  | cons c content ih =>
    have hpos := byteSize_pos c
    rw [textBytes] at h
    rw [dropBytes, if_neg (by omega)]
    exact ih (by omega)

/-- A text written where a content ends comes behind it. -/
theorem overwrite_end (content text : List Char) :
    overwrite content (textBytes content) text = content ++ text := by
  rw [overwrite, takeBytes_textBytes, dropBytes_eq_nil (Nat.le_add_right _ _), List.append_nil]

/-- Making a directory leaves the files alone. -/
theorem read?_ensureDirectory (tree : FileTree) (p : FilePath) (place : Place) :
    (tree.ensureDirectory p).1.read? place = tree.read? place := by
  unfold ensureDirectory
  split
  · rename_i made hmade
    obtain ⟨found, -, hmade⟩ := bind_eq_ok.1 hmade
    split at hmade
    · cases hmade
    · cases hmade
      rfl
  · rfl

/-- So does making all directories on a way. -/
theorem read?_makeWay (tree : FileTree) (root : List Char) (names : List CodePoints)
    (place : Place) : (tree.makeWay root names).1.read? place = tree.read? place := by
  induction names generalizing tree with
  | nil => exact read?_ensureDirectory tree _ place
  | cons name before ih =>
    have hfirst := read?_ensureDirectory tree ⟨root, (name :: before).reverse⟩ place
    unfold makeWay
    dsimp only
    split
    · rename_i missing hmissing
      rw [hmissing] at hfirst
      have hway := ih missing
      split
      · rename_i made hmade
        rw [hmade] at hway
        exact (read?_ensureDirectory made _ place).trans (hway.trans hfirst)
      · exact hway.trans hfirst
    · exact hfirst

/-- A file that was opened for writing is there, empty or as it was. -/
theorem read?_of_openForWriting {opened : FileTree} {path : FilePath} {truncate : Bool}
    (h : tree.openForWriting path truncate = (opened, .ok place)) :
    opened.read? place = some (if truncate then [] else (tree.read? place).getD []) := by
  unfold openForWriting at h
  split at h
  · cases h
  · rename_i made hmade
    have hway : ∀ place, made.read? place = tree.read? place := by
      intro place
      rw [← read?_makeWay tree path.root path.way.reverse place, hmade]
    split at h
    · rename_i hopen
      cases h
      obtain ⟨found, -, hopen⟩ := bind_eq_ok.1 hopen
      split at hopen
      · cases hopen
      · cases hopen
        rw [read?_write, hway]
    · cases h

end FileTree

theorem textBytes_append (first second : List Char) :
    textBytes (first ++ second) = textBytes first + textBytes second := by
  induction first with
  | nil => exact (Nat.zero_add _).symm
  | cons c first ih => rw [List.cons_append, textBytes, textBytes, ih, Nat.add_assoc]

/-! ## The worker's own actions -/

/-- An action of the worker, and not of a client. -/
def Action.isOfWorker {ε : Type} : Action ε → Bool
  | .take | .handle _ | .account => true
  | .notify _ | .requestStop | .closeFile => false

namespace Trace

variable {ε : Type} {t next : Trace ε} {a : Action ε}

/-- The worker accepts nothing by itself, and is not asked to stop by itself. -/
theorem Step.accepted_of_worker (h : Step t a next) (ha : a.isOfWorker = true) :
    next.accepted = t.accepted ∧ next.worker.closed = t.worker.closed := by
  cases h with
  | take _ _ | write _ _ | fail _ | heed _ | account _ | leave _ => exact ⟨rfl, rfl⟩
  | accept _ | refuse _ | stop _ | stopAgain _ | closeFile _ => cases ha

/-- With every action the worker has less to do. -/
theorem Step.stepsLeft_lt (h : Step t a next) (ha : a.isOfWorker = true) :
    next.worker.stepsLeft < t.worker.stepsLeft := by
  cases h with
  | take hhand hqueue =>
    simp only [Worker.stepsLeft, hhand, hqueue, List.length_cons]
    omega
  | write hhand _ | fail hhand | heed hhand | account hhand | leave hhand =>
    simp only [Worker.stepsLeft, hhand]
    omega
  | accept _ | refuse _ | stop _ | stopAgain _ | closeFile _ => cases ha

end Trace

/-! ## An undisturbed journal -/

namespace Journal

variable {place : Place} {format : HistoryFormat} {j next : Journal} {tree tree' : FileTree}
  {t t' : Trace HistoryEntry} {a : Action HistoryEntry} {e : HistoryEntry}
  {records : List LogRecord} {before : List Char}

/-- A journal with a given past that nobody has disturbed: its file is the one that was opened, and
behind what it held before it has one line for each entry that was written, which are all that were
dealt with. -/
structure Keeps (place : Place) (format : HistoryFormat) (j : Journal) (tree : FileTree)
    (t : Trace HistoryEntry) (before : List Char := []) : Prop where
  place_eq : j.place = place
  format_eq : j.format = format
  attached : j.attached = true
  free : j.heldUp = false
  worker_eq : j.worker = t.worker
  fileOpen : t.worker.fileOpen = true
  orderly : t.Orderly
  lost_eq : t.lost = []
  content_eq : tree.read? place = some (before ++ format.content t.written)
  /-- A journal that does not append writes where the file ends. -/
  position : j.appends = false → j.written = textBytes (before ++ format.content t.written)

/-- A journal that was just opened on an emptied file. -/
theorem keeps_of_open {path : FilePath} {opened : FileTree}
    (h : Journal.open? tree path format true = (opened, .ok j)) :
    Keeps j.place format j opened {} := by
  unfold Journal.open? at h
  split at h
  · rename_i hopen
    cases h
    exact ⟨rfl, rfl, rfl, rfl, rfl, rfl, .start, rfl,
      FileTree.read?_of_openForWriting hopen, fun _ => rfl⟩
  · cases h

/-- A journal that was just opened on a file that goes on. -/
theorem keeps_of_open_append {path : FilePath} {opened : FileTree}
    (h : Journal.open? tree path format false = (opened, .ok j)) :
    Keeps j.place format j opened {} ((tree.read? j.place).getD []) := by
  unfold Journal.open? at h
  split at h
  · rename_i hopen
    cases h
    have hcontent := FileTree.read?_of_openForWriting hopen
    exact ⟨rfl, rfl, rfl, rfl, rfl, rfl, .start, rfl,
      hcontent.trans (congrArg some (List.append_nil _).symm), nofun⟩
  · cases h

/-- An action that deals with no entry leaves the file alone. -/
theorem Keeps.move (h : Keeps place format j tree t before) (hstep : Trace.Step t a t')
    (hdealt : t'.dealt = t.dealt) (hfile : t'.worker.fileOpen = true) :
    Keeps place format { j with worker := t'.worker } tree t' before := by
  have hwritten : t'.written = t.written := by rw [Trace.written, hdealt, Trace.written]
  have hlost : t'.lost = t.lost := by rw [Trace.lost, hdealt, Trace.lost]
  exact { h with
    worker_eq := rfl
    fileOpen := hfile
    orderly := h.orderly.step hstep
    lost_eq := hlost.trans h.lost_eq
    content_eq := hwritten ▸ h.content_eq
    position := hwritten ▸ h.position }

/-- A line goes behind what is in the file, whatever the worker is at. -/
theorem Keeps.writeLine_eq (h : Keeps place format j tree t before) (w : Worker HistoryEntry)
    (line : List Char) :
    Journal.writeLine { j with worker := w } tree line =
      ({ j with worker := w, written := j.written + textBytes (line ++ ['\n']) },
        tree.write place (before ++ format.content t.written ++ (line ++ ['\n']))) := by
  have hplaced : (if j.appends then before ++ format.content t.written ++ (line ++ ['\n'])
      else FileTree.overwrite (before ++ format.content t.written) j.written (line ++ ['\n'])) =
      before ++ format.content t.written ++ (line ++ ['\n']) := by
    cases happends : j.appends with
    | true => rfl
    | false => rw [h.position happends, FileTree.overwrite_end, if_neg Bool.false_ne_true]
  simp only [Journal.writeLine, h.attached, h.place_eq, h.content_eq, Option.getD_some, hplaced,
    if_true]

/-- An entry that is written gets its line. -/
theorem Keeps.writeEntry (h : Keeps place format j tree t before)
    (hstep : Trace.Step t (.handle true) t') (hdealt : t'.dealt = t.dealt ++ [(e, true)])
    (hfile : t'.worker.fileOpen = true)
    (hwrite : Journal.writeLine { j with worker := t'.worker } tree (format.write e) =
      (next, tree')) : Keeps place format next tree' t' before := by
  have hwritten : t'.written = t.written ++ [e] := by simp [Trace.written, hdealt]
  have hlost : t'.lost = t.lost := by simp [Trace.lost, hdealt]
  have hcontent : format.content t'.written =
      format.content t.written ++ (format.write e ++ ['\n']) := by
    rw [hwritten, format.content_append, format.content_singleton]
  rw [h.writeLine_eq] at hwrite
  cases hwrite
  exact { h with
    worker_eq := rfl
    fileOpen := hfile
    orderly := h.orderly.step hstep
    lost_eq := hlost.trans h.lost_eq
    content_eq := by rw [FileTree.read?_write, hcontent, List.append_assoc]
    position := by
      intro happends
      show j.written + textBytes (format.write e ++ ['\n']) = _
      rw [hcontent, ← List.append_assoc, textBytes_append (before ++ _),
        h.position happends] }

/-! ## The worker goes on -/

/-- The next thing that the worker does is an action of it. -/
theorem Keeps.advance? (h : Keeps place format j tree t before)
    (hnext : j.advance? tree = some (next, tree', records)) :
    ∃ a t', a.isOfWorker = true ∧ Trace.Step t a t' ∧ Keeps place format next tree' t' before := by
  unfold Journal.advance? at hnext
  simp only [h.worker_eq] at hnext
  cases hhand : t.worker.hand with
  | empty =>
    simp only [hhand, Worker.take?] at hnext
    cases hqueue : t.worker.queue with
    | nil =>
      rw [hqueue] at hnext
      cases hnext
    | cons i queue =>
      rw [hqueue] at hnext
      cases hnext
      have hstep := Trace.Step.take hhand hqueue
      exact ⟨_, _, rfl, hstep, h.move hstep rfl h.fileOpen⟩
  | taken i =>
    cases i with
    | entry e =>
      have hhandle : t.worker.handle? true =
          some { t.worker with hand := .handled (.entry e) } := by
        simp [Worker.handle?, hhand, h.fileOpen]
      simp only [hhand] at hnext
      rw [if_neg (by simp [h.free]), if_pos h.fileOpen, hhandle, Option.map_some] at hnext
      cases hnext
      have hstep := Trace.Step.write hhand h.fileOpen
      refine ⟨_, _, rfl, hstep, h.writeEntry hstep rfl h.fileOpen ?_⟩
      rw [h.format_eq]
    | stop =>
      simp only [hhand, Worker.handle?] at hnext
      cases hnext
      have hstep : Trace.Step t (.handle false) _ := Trace.Step.heed hhand
      exact ⟨_, _, rfl, hstep, h.move hstep rfl h.fileOpen⟩
  | handled i =>
    cases i with
    | entry e =>
      simp only [hhand, Worker.account?] at hnext
      cases hnext
      have hstep := Trace.Step.account hhand
      exact ⟨_, _, rfl, hstep, h.move hstep rfl h.fileOpen⟩
    | stop =>
      simp only [hhand, Worker.account?] at hnext
      cases hnext
      have hstep := Trace.Step.leave hhand
      exact ⟨_, _, rfl, hstep, h.move hstep rfl h.fileOpen⟩
  | gone =>
    simp only [hhand] at hnext
    cases hnext

theorem advance?_eq_none (hidle : j.worker.stepsLeft = 0) : j.advance? tree = none := by
  unfold Journal.advance?
  cases hhand : j.worker.hand with
  | empty =>
    simp only [Worker.stepsLeft, hhand] at hidle
    have hqueue : j.worker.queue = [] := List.length_eq_zero_iff.1 (by omega)
    simp [Worker.take?, hhand, hqueue]
  | gone => rfl
  | taken i | handled i =>
    simp only [Worker.stepsLeft, hhand] at hidle
    omega

/-- The worker goes on, and given enough actions until it can do nothing more. -/
theorem Keeps.advance (h : Keeps place format j tree t before) (steps : Nat) :
    ∃ t', Keeps place format (j.advance tree steps).1 (j.advance tree steps).2.1 t' before ∧
      t'.accepted = t.accepted ∧ t'.worker.closed = t.worker.closed ∧
      (j.worker.stepsLeft ≤ steps →
        (j.advance tree steps).1.advance? (j.advance tree steps).2.1 = none) := by
  induction steps generalizing j tree t with
  | zero => exact ⟨t, h, rfl, rfl, fun hsteps => advance?_eq_none (Nat.le_zero.1 hsteps)⟩
  | succ steps ih =>
    cases hnext : j.advance? tree with
    | none =>
      rw [Journal.advance, hnext]
      exact ⟨t, h, rfl, rfl, fun _ => hnext⟩
    | some result =>
      obtain ⟨next, tree', records⟩ := result
      obtain ⟨a, t', ha, hstep, hkeeps⟩ := h.advance? hnext
      obtain ⟨t'', hkeeps', haccepted, hclosed, hend⟩ := ih hkeeps
      obtain ⟨hstepAccepted, hstepClosed⟩ := hstep.accepted_of_worker ha
      have hless := hstep.stepsLeft_lt ha
      rw [← h.worker_eq, ← hkeeps.worker_eq] at hless
      rw [Journal.advance, hnext]
      exact ⟨t'', hkeeps', haccepted.trans hstepAccepted, hclosed.trans hstepClosed,
        fun hsteps => hend (by omega)⟩

/-- A worker that can do nothing more is gone, or it waits and nothing is in the queue. -/
theorem Keeps.idle (h : Keeps place format j tree t before) (hnone : j.advance? tree = none) :
    t.worker.hand = .gone ∨ (t.worker.hand = .empty ∧ t.worker.queue = []) := by
  unfold Journal.advance? at hnone
  simp only [h.worker_eq] at hnone
  cases hhand : t.worker.hand with
  | gone => exact .inl rfl
  | empty =>
    simp only [hhand, Worker.take?] at hnone
    cases hqueue : t.worker.queue with
    | nil => exact .inr ⟨rfl, rfl⟩
    | cons i queue =>
      rw [hqueue] at hnone
      cases hnone
  | taken i =>
    cases i with
    | entry e => simp [hhand, h.free, h.fileOpen, Worker.handle?] at hnone
    | stop => simp [hhand, Worker.handle?] at hnone
  | handled i => cases i <;> simp [hhand, Worker.account?] at hnone

/-- A worker that was asked to stop and can do nothing more is gone: the request has passed. -/
theorem Keeps.gone (h : Keeps place format j tree t before) (hnone : j.advance? tree = none)
    (hclosed : t.worker.closed = true) : t.worker.isGone = true := by
  rcases h.idle hnone with hhand | ⟨hhand, hqueue⟩
  · rw [Worker.isGone, hhand]
  · -- else there would be entries only
    have hpassage := h.orderly.passage_eq
    rw [Trace.passage, Trace.stopMark, hhand, hqueue, hclosed, if_pos rfl, Hand.held,
      List.append_nil, List.append_nil] at hpassage
    have hmem : Item.stop ∈ t.processed.map Item.entry := by
      rw [hpassage]
      simp
    simp at hmem

/-- Once the worker is gone, every accepted entry is written. -/
theorem Keeps.written_of_gone (h : Keeps place format j tree t before)
    (hgone : t.worker.isGone = true) : t.written = t.accepted := by
  have hall : ∀ d ∈ t.dealt, d.2 = true := by
    have hlost := h.lost_eq
    rw [Trace.lost, List.map_eq_nil_iff, List.filter_eq_nil_iff] at hlost
    simpa using hlost
  rw [← h.orderly.processed_of_gone hgone, Trace.written, Trace.processed,
    List.filter_eq_self.2 hall]

/-! ## Requests -/

/-- What a journal is told it accepts, at whatever pace its worker goes on. -/
theorem Keeps.notify (h : Keeps place format j tree t before) (hclosed : t.worker.closed = false)
    (now : List Char) (n : Notification) (pace : Journal → Nat) :
    let result := j.notify tree now n pace
    ∃ t', Keeps place format result.1 result.2.1 t' before ∧
      t'.accepted = t.accepted ++ [⟨n.expression, n.value, now⟩] ∧ t'.worker.closed = false := by
  let e : HistoryEntry := ⟨n.expression, n.value, now⟩
  have hstep : Trace.Step t (.notify e) _ := .accept hclosed
  have hworker : j.worker.notify e = t.worker.enqueue (.entry e) := by
    rw [Worker.notify, h.worker_eq, if_neg (by simp [hclosed])]
  have hhanded := h.move hstep rfl h.fileOpen
  rw [← hworker] at hhanded
  obtain ⟨t', hkeeps, haccepted, hclosed', -⟩ :=
    hhanded.advance (pace { j with worker := j.worker.notify e })
  have hopen : (j.worker.notify e).closed = false := by
    rw [hworker]
    exact hclosed
  rw [Journal.notify, if_neg (by simp [h.worker_eq, hclosed])]
  exact ⟨t', hkeeps, haccepted, hclosed'.trans hopen⟩

/-- When the journal is closed its worker stops, and every accepted entry has its line. -/
theorem Keeps.close (h : Keeps place format j tree t before) (hclosed : t.worker.closed = false)
    (timeout : List Char) :
    (j.close tree timeout).1.worker.isGone = true ∧ (j.close tree timeout).1.place = place ∧
      (j.close tree timeout).1.format = format ∧
      (j.close tree timeout).2.1.read? place = some (before ++ format.content t.accepted) := by
  have hstep : Trace.Step t .requestStop _ := .stop hclosed
  have hasked := h.move hstep rfl h.fileOpen
  have hworker : j.worker.requestStop = { t.worker.enqueue .stop with closed := true } := by
    rw [Worker.requestStop, h.worker_eq, if_neg (by simp [hclosed])]
  obtain ⟨t', hkeeps, haccepted, hclosed', hend⟩ :=
    hasked.advance (Worker.stepsLeft { t.worker.enqueue .stop with closed := true })
  have hgone := hkeeps.gone (hend (Nat.le_refl _)) hclosed'
  rw [Journal.close, if_neg (by simp [h.worker_eq, hclosed]), hworker]
  refine ⟨?_, hkeeps.place_eq, hkeeps.format_eq, ?_⟩
  · rw [← hkeeps.worker_eq] at hgone
    exact hgone
  · rw [← haccepted, ← hkeeps.written_of_gone hgone]
    exact hkeeps.content_eq

end Journal

end DeskCalculator
