import Mathlib.Logic.Function.Basic
import Mathlib.Order.Nat
import Midscale.Run.Basic

/-!
# Files and crashes

A program that changes files one operation after the other and may be cut off at any point.  A
rename is atomic; a write truncates the file first, and a crash leaves any front part of the text in
it.

* `crash` : the files after a crash.
* `crash_untouched` : a file that no operation names is as it was.
* `crash_append_of_lt`, `crash_append_of_le` : a crash in the first or in the second of two
  sequences.
* `crash_atomicWrite` : a file that is replaced by a rename has its old text or its new one.
-/

namespace Midscale

/-- The contents of the files that exist. -/
abbrev Files (P : Type*) := P → Option (List Char)

/-- An operation on files. -/
inductive FileOp (P : Type*) where
  /-- A file is opened for writing and gets a text. -/
  | write (path : P) (text : List Char)
  | rename (source target : P)
  /-- Directories and permissions, which are no contents. -/
  | touch

/-- A point in a sequence of operations: so many are done, and so many characters of the next are
written, if it is a write that was begun. -/
structure CrashPoint where
  done : ℕ
  cut : Option ℕ := none

section

variable {P : Type*} [DecidableEq P]

namespace FileOp

/-- The files after an operation. -/
def apply (files : Files P) : FileOp P → Files P
  | write path text => Function.update files path (some text)
  | rename source target =>
    match files source with
    | some text => Function.update (Function.update files target (some text)) source none
    | none => files
  | touch => files

/-- The files after an operation that was cut off. -/
def cutOff (files : Files P) (n : ℕ) : FileOp P → Files P
  | write path text => Function.update files path (some (text.take n))
  | rename _ _ => files
  | touch => files

/-- The files an operation names. -/
def paths : FileOp P → List P
  | write path _ => [path]
  | rename source target => [source, target]
  | touch => []

theorem apply_of_not_mem {op : FileOp P} {p : P} (h : p ∉ op.paths) (files : Files P) :
    op.apply files p = files p := by
  cases op with
  | write path text => exact Function.update_of_ne (by simpa [paths] using h) _ _
  | rename source target =>
    simp only [paths, List.mem_cons, List.not_mem_nil, or_false, not_or] at h
    cases hsource : files source with
    | none => simp only [apply, hsource]
    | some text => simp only [apply, hsource, Function.update_of_ne h.1, Function.update_of_ne h.2]
  | touch => rfl

theorem cutOff_of_not_mem {op : FileOp P} {p : P} (h : p ∉ op.paths) (files : Files P) (n : ℕ) :
    op.cutOff files n p = files p := by
  cases op with
  | write path text => exact Function.update_of_ne (by simpa [paths] using h) _ _
  | rename source target => rfl
  | touch => rfl

end FileOp

/-- The files after all operations. -/
def runOps (ops : List (FileOp P)) (files : Files P) : Files P :=
  run (fun files op => op.apply files) files ops

@[simp] theorem runOps_nil (files : Files P) : runOps [] files = files := rfl

@[simp] theorem runOps_cons (op : FileOp P) (ops : List (FileOp P)) (files : Files P) :
    runOps (op :: ops) files = runOps ops (op.apply files) := rfl

/-- The files after a crash. -/
def crash (ops : List (FileOp P)) (files : Files P) (c : CrashPoint) : Files P :=
  match c.cut, ops[c.done]? with
  | some n, some op => op.cutOff (runOps (ops.take c.done) files) n
  | _, _ => runOps (ops.take c.done) files

variable {ops ops' : List (FileOp P)} {files : Files P} {c : CrashPoint} {p : P}

theorem runOps_untouched (h : ∀ op ∈ ops, p ∉ op.paths) : runOps ops files p = files p := by
  induction ops generalizing files with
  | nil => rfl
  | cons op ops ih =>
    have hop := FileOp.apply_of_not_mem (h op List.mem_cons_self) files
    exact (ih fun op' hop' => h op' (List.mem_cons_of_mem op hop')).trans hop

/-- **A file that no operation names** is as it was, wherever the crash comes. -/
theorem crash_untouched (h : ∀ op ∈ ops, p ∉ op.paths) : crash ops files c p = files p := by
  have hbefore : runOps (ops.take c.done) files p = files p :=
    runOps_untouched fun op hop => h op (List.mem_of_mem_take hop)
  cases hcut : c.cut with
  | none => simpa only [crash, hcut] using hbefore
  | some n =>
    cases hop : ops[c.done]? with
    | none => simpa only [crash, hcut, hop] using hbefore
    | some op =>
      simp only [crash, hcut, hop]
      rw [FileOp.cutOff_of_not_mem (h op (List.mem_of_getElem? hop)), hbefore]

theorem crash_of_length_le (h : ops.length ≤ c.done) : crash ops files c = runOps ops files := by
  have hnone : ops[c.done]? = none := List.getElem?_eq_none h
  unfold crash
  rw [hnone, List.take_of_length_le h]
  cases c.cut <;> rfl

/-- A crash in the first of two sequences. -/
theorem crash_append_of_lt (h : c.done < ops.length) :
    crash (ops ++ ops') files c = crash ops files c := by
  unfold crash
  rw [List.getElem?_append_left h, List.take_append_of_le_length h.le]

/-- A crash in the second of two sequences. -/
theorem crash_append_of_le (h : ops.length ≤ c.done) : crash (ops ++ ops') files c =
    crash ops' (runOps ops files) { c with done := c.done - ops.length } := by
  have hrun : runOps ((ops ++ ops').take c.done) files =
      runOps (ops'.take (c.done - ops.length)) (runOps ops files) := by
    rw [List.take_append, List.take_of_length_le h, runOps, run_append]
    rfl
  unfold crash
  rw [List.getElem?_append_right h, hrun]

/-! ### Atomic writes -/

/-- A text is written next to a file and takes its place by a rename. -/
def atomicWrite (tmp target : P) (text : List Char) : List (FileOp P) :=
  [.touch, .write tmp text, .touch, .rename tmp target]

variable {tmp target : P} {text : List Char}

omit [DecidableEq P] in
@[simp] theorem length_atomicWrite : (atomicWrite tmp target text).length = 4 := rfl

omit [DecidableEq P] in
theorem not_mem_atomicWrite (htmp : p ≠ tmp) (htarget : p ≠ target) :
    ∀ op ∈ atomicWrite tmp target text, p ∉ op.paths := by
  simp [atomicWrite, FileOp.paths, htmp, htarget]

theorem runOps_atomicWrite (h : target ≠ tmp) :
    runOps (atomicWrite tmp target text) files target = some text := by
  simp [atomicWrite, FileOp.apply, Function.update_of_ne h]

/-- **A file that is replaced by a rename** has its old text until then, and then the new one. -/
theorem crash_atomicWrite (h : target ≠ tmp) :
    crash (atomicWrite tmp target text) files c target =
      if c.done < 4 then files target else some text := by
  split_ifs with hc
  · -- until the rename nothing has named the target
    have hbefore : crash ([.touch, .write tmp text, .touch] ++ [.rename tmp target]) files c =
        crash [.touch, .write tmp text, .touch] files c := by
      rcases (Nat.le_of_lt_succ hc).lt_or_eq with hlt | heq
      · exact crash_append_of_lt hlt
      · have hlen : [FileOp.touch, .write tmp text, .touch].length ≤ c.done := heq.ge
        rw [crash_append_of_le hlen, crash_of_length_le hlen]
        have hzero : c.done - [FileOp.touch, .write tmp text, .touch].length = 0 := by
          rw [heq]
          rfl
        rw [hzero]
        cases c.cut <;> rfl
    exact (congrFun hbefore target).trans (crash_untouched (by simp [FileOp.paths, h]))
  · rw [crash_of_length_le (Nat.le_of_not_lt hc), runOps_atomicWrite h]

end

end Midscale
