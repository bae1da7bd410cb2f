import DependencyAudit.Audit
import Mathlib.Data.List.Forall2

namespace DependencyAudit.Audit

/-- How far the work on one submitted file is: it waits for a permit, holds one, is being read by a worker, or has its
result. -/
inductive Task where
  | waiting (s : Submission)
  | admitted (s : Submission)
  | running (s : Submission)
  | finished (r : FileResult)

inductive Move where
  | acquire
  | start
  | finish
deriving DecidableEq

/-- A move on the task at a place. -/
structure Event where
  place : Nat
  move : Move
deriving DecidableEq

namespace Task

def stage : Task → Nat
  | waiting _ => 0
  | admitted _ => 1
  | running _ => 2
  | finished _ => 3

def holdsPermit : Task → Bool
  | admitted _ => true
  | running _ => true
  | _ => false

def isRunning : Task → Bool
  | running _ => true
  | _ => false

def result? : Task → Option FileResult
  | finished r => some r
  | _ => none

/-- A task at work on one file, or done with what scanning the file gives. -/
inductive IsOf (table : ParserTable) (w : Watchlist) (s : Submission) : Task → Prop
  | waiting : IsOf table w s (.waiting s)
  | admitted : IsOf table w s (.admitted s)
  | running : IsOf table w s (.running s)
  | finished : IsOf table w s (.finished (scanFile table w s))

end Task

/-- The free permits, the idle workers, and the tasks in the order in which their files were submitted. -/
structure Pool where
  permits : Nat
  idle : Nat
  tasks : List Task

namespace Pool

def start (limit : Nat) (submitted : List Submission) : Pool := ⟨limit, limit, submitted.map .waiting⟩

/-- The results of all tasks in the order of submission, once each has one. -/
def gathered? (p : Pool) : Option (List FileResult) := p.tasks.mapM Task.result?

def reading (p : Pool) : Nat := p.tasks.countP Task.isRunning

/-- One step of the reading phase, on whichever task. A task keeps its permit until its file is read. -/
inductive Step (table : ParserTable) (w : Watchlist) : Pool → Event → Pool → Prop
  | acquire (permits idle : Nat) (before : List Task) (s : Submission) (after : List Task) :
    Step table w ⟨permits + 1, idle, before ++ .waiting s :: after⟩ ⟨before.length, .acquire⟩
      ⟨permits, idle, before ++ .admitted s :: after⟩
  | start (permits idle : Nat) (before : List Task) (s : Submission) (after : List Task) :
    Step table w ⟨permits, idle + 1, before ++ .admitted s :: after⟩ ⟨before.length, .start⟩
      ⟨permits, idle, before ++ .running s :: after⟩
  | finish (permits idle : Nat) (before : List Task) (s : Submission) (after : List Task) :
    Step table w ⟨permits, idle, before ++ .running s :: after⟩ ⟨before.length, .finish⟩
      ⟨permits + 1, idle + 1, before ++ .finished (scanFile table w s) :: after⟩

/-- Steps in any order, with what happened. -/
inductive Run (table : ParserTable) (w : Watchlist) (p : Pool) : List Event → Pool → Prop
  | nil : Run table w p [] p
  | snoc {q r : Pool} {es : List Event} {e : Event} (run : Run table w p es q) (step : Step table w q e r) :
    Run table w p (es ++ [e]) r

end Pool

/-- The moves made so far on the task at a place. -/
def movesAt (es : List Event) (i : Nat) : List Move := (es.filter fun e => e.place = i).map (·.move)

/-- All moves on a task, in the one order in which they can be made. -/
def allMoves : List Move := [.acquire, .start, .finish]

def stageAt (tasks : List Task) (i : Nat) : Nat := (tasks[i]?.map Task.stage).getD 0

/-- The steps that the tasks still have before them. -/
def stepsLeft : List Task → Nat
  | [] => 0
  | t :: ts => 3 - t.stage + stepsLeft ts

theorem movesAt_snoc (es : List Event) (e : Event) (i : Nat) :
    movesAt (es ++ [e]) i = movesAt es i ++ if e.place = i then [e.move] else [] := by
  rw [movesAt, List.filter_append, List.map_append, movesAt]
  by_cases h : e.place = i <;> simp [h]

theorem stageAt_replace (before : List Task) (t t' : Task) (after : List Task) (i : Nat) :
    stageAt (before ++ t' :: after) i =
      if before.length = i then t'.stage else stageAt (before ++ t :: after) i := by
  have replaced : before ++ t' :: after = (before ++ t :: after).set before.length t' := by simp
  rw [stageAt, replaced, List.getElem?_set]
  by_cases h : before.length = i
  · subst h
    simp
  · simp [h, stageAt]

theorem stageAt_here (before : List Task) (t : Task) (after : List Task) :
    stageAt (before ++ t :: after) before.length = t.stage := by
  simp [stageAt]

theorem stageAt_outside {tasks : List Task} {i : Nat} (h : tasks.length ≤ i) : stageAt tasks i = 0 := by
  rw [stageAt, List.getElem?_eq_none h]
  rfl

theorem stepsLeft_append (ts us : List Task) : stepsLeft (ts ++ us) = stepsLeft ts + stepsLeft us := by
  induction ts with
  | nil => simp [stepsLeft]
  | cons t ts ih =>
    simp only [List.cons_append, stepsLeft, ih]
    omega

theorem countP_replace (f : Task → Bool) (before : List Task) (t t' : Task) (after : List Task) :
    (before ++ t' :: after).countP f + (f t).toNat = (before ++ t :: after).countP f + (f t').toNat := by
  simp only [List.countP_append, List.countP_cons]
  cases f t <;> cases f t' <;> simp <;> omega

theorem forall₂_replace {α β : Type} {R : α → β → Prop} {as : List α} {before after : List β} {b b' : β}
    (h : List.Forall₂ R as (before ++ b :: after)) (here : ∀ a, R a b → R a b') :
    List.Forall₂ R as (before ++ b' :: after) := by
  induction before generalizing as with
  | nil =>
    cases h with
    | cons first rest => exact .cons (here _ first) rest
  | cons c before ih =>
    cases h with
    | cons first rest => exact .cons first (ih rest)

namespace Pool

variable {table : ParserTable} {w : Watchlist}

/-- What holds after any steps: every permit and every worker is free or with a task, each task is at work on the file
submitted at its place, and the moves made on it are those up to its stage. -/
structure Sound (table : ParserTable) (w : Watchlist) (limit : Nat) (submitted : List Submission) (es : List Event)
    (p : Pool) : Prop where
  permits : p.permits + p.tasks.countP Task.holdsPermit = limit
  idle : p.idle + p.tasks.countP Task.isRunning = limit
  tasks : List.Forall₂ (Task.IsOf table w) submitted p.tasks
  moves : ∀ i, movesAt es i = allMoves.take (stageAt p.tasks i)
  steps : es.length + stepsLeft p.tasks = 3 * submitted.length

variable {limit : Nat} {submitted : List Submission} {es : List Event} {p q : Pool} {e : Event}

theorem sound_start (table : ParserTable) (w : Watchlist) (limit : Nat) (submitted : List Submission) :
    Sound table w limit submitted [] (start limit submitted) := by
  constructor
  case permits =>
    have none_held : (submitted.map Task.waiting).countP Task.holdsPermit = 0 := by
      simp [List.countP_eq_zero, Task.holdsPermit]
    rw [start, none_held, Nat.add_zero]
  case idle =>
    have none_running : (submitted.map Task.waiting).countP Task.isRunning = 0 := by
      simp [List.countP_eq_zero, Task.isRunning]
    rw [start, none_running, Nat.add_zero]
  case tasks =>
    rw [start, List.forall₂_map_right_iff, List.forall₂_same]
    exact fun s _ => .waiting
  case moves =>
    intro i
    have unmoved : stageAt (submitted.map Task.waiting) i = 0 := by
      rw [stageAt, List.getElem?_map]
      cases submitted[i]? <;> rfl
    rw [start, unmoved]
    rfl
  case steps =>
    rw [start, List.length_nil, Nat.zero_add]
    induction submitted with
    | nil => rfl
    | cons s ss ih =>
      rw [List.map_cons, stepsLeft, ih, Task.stage, List.length_cons]
      omega

/-- One task is moved on by one stage, for which it takes or gives back a permit, or a worker. -/
theorem Sound.replace {permits idle permits' idle' : Nat} {before after : List Task} {t t' : Task} {m : Move}
    (h : Sound table w limit submitted es ⟨permits, idle, before ++ t :: after⟩)
    (permit : permits' + t'.holdsPermit.toNat = permits + t.holdsPermit.toNat)
    (worker : idle' + t'.isRunning.toNat = idle + t.isRunning.toNat)
    (same : ∀ s, Task.IsOf table w s t → Task.IsOf table w s t')
    (stage : t'.stage = t.stage + 1) (made : allMoves[t.stage]? = some m) :
    Sound table w limit submitted (es ++ [⟨before.length, m⟩]) ⟨permits', idle', before ++ t' :: after⟩ := by
  constructor
  case permits =>
    have total := h.permits
    have counted := countP_replace Task.holdsPermit before t t' after
    simp only at total ⊢
    omega
  case idle =>
    have total := h.idle
    have counted := countP_replace Task.isRunning before t t' after
    simp only at total ⊢
    omega
  case tasks => exact forall₂_replace h.tasks same
  case moves =>
    intro i
    have so_far := h.moves i
    simp only at so_far ⊢
    rw [movesAt_snoc, so_far, stageAt_replace before t t']
    by_cases hi : before.length = i
    · subst hi
      rw [if_pos rfl, if_pos rfl, stageAt_here, stage, List.take_add_one, made]
      rfl
    · rw [if_neg hi, if_neg hi, List.append_nil]
  case steps =>
    have total := h.steps
    have early : t.stage < 3 := (List.getElem?_eq_some_iff.1 made).1
    simp only [stepsLeft_append, stepsLeft] at total
    simp only [List.length_append, List.length_singleton, stepsLeft_append, stepsLeft, stage]
    omega

theorem Sound.step (h : Sound table w limit submitted es p) (made : Step table w p e q) :
    Sound table w limit submitted (es ++ [e]) q := by
  cases made with
  | acquire =>
    refine h.replace rfl rfl ?_ rfl rfl
    rintro _ ⟨⟩
    exact .admitted
  | start =>
    refine h.replace rfl rfl ?_ rfl rfl
    rintro _ ⟨⟩
    exact .running
  | finish =>
    refine h.replace rfl rfl ?_ rfl rfl
    rintro _ ⟨⟩
    exact .finished

theorem Sound.run {fs : List Event} (h : Sound table w limit submitted es p) (made : Run table w p fs q) :
    Sound table w limit submitted (es ++ fs) q := by
  induction made with
  | nil => rwa [List.append_nil]
  | snoc _ step ih =>
    rw [← List.append_assoc]
    exact ih.step step

theorem Sound.reading_le (h : Sound table w limit submitted es p) : p.reading ≤ limit := by
  have total := h.idle
  rw [reading]
  omega

theorem gathered?_eq_none {p : Pool} : p.gathered? = none ↔ ∃ t ∈ p.tasks, t.result? = none := by
  rw [gathered?]
  induction p.tasks with
  | nil => simp
  | cons t ts ih =>
    rw [List.exists_mem_cons_iff, ← ih, List.mapM_cons]
    cases t.result? with
    | none => simp
    | some r => cases ts.mapM Task.result? <;> simp

theorem stage_of_gathered {results : List FileResult} (all : p.gathered? = some results) {t : Task}
    (ht : t ∈ p.tasks) : t.stage = 3 := by
  have closed : t.result? ≠ none := by
    intro open_
    have missing : p.gathered? = none := gathered?_eq_none.2 ⟨t, ht, open_⟩
    rw [all] at missing
    cases missing
  cases t with
  | finished r => rfl
  | waiting | admitted | running => exact absurd rfl closed

/-- Results that are gathered are those of scanning the files one after the other. -/
theorem Sound.gathered (h : Sound table w limit submitted es p) {results : List FileResult}
    (all : p.gathered? = some results) : results = submitted.map (scanFile table w) := by
  have tasks := h.tasks
  rw [gathered?] at all
  generalize p.tasks = ts at tasks all
  clear h
  induction tasks generalizing results with
  | nil => exact (Option.some.inj all).symm
  | cons first _ ih =>
    rw [List.mapM_cons] at all
    obtain ⟨r, hr, all⟩ := Option.bind_eq_some_iff.1 all
    obtain ⟨rs, hrs, all⟩ := Option.bind_eq_some_iff.1 all
    obtain rfl := Option.some.inj all
    cases first with
    | finished =>
      obtain rfl := Option.some.inj hr
      rw [List.map_cons, ih hrs]
    | waiting | admitted | running => cases hr

/-- Where some task is unfinished, one can be moved on: a file that is being read can be finished; if there is none,
all workers are idle and can start on a task with a permit; if there is none either, all permits are free. -/
theorem Sound.exists_step (h : Sound table w limit submitted es p) (positive : 1 ≤ limit)
    (unfinished : ∃ t ∈ p.tasks, t.result? = none) : ∃ e q, Step table w p e q := by
  obtain ⟨permits, idle, tasks⟩ := p
  have permit_total := h.permits
  have worker_total := h.idle
  simp only at permit_total worker_total unfinished
  by_cases reading : ∃ s, Task.running s ∈ tasks
  · obtain ⟨s, hs⟩ := reading
    obtain ⟨before, after, rfl⟩ := List.append_of_mem hs
    exact ⟨_, _, .finish permits idle before s after⟩
  · have none_running : tasks.countP Task.isRunning = 0 := by
      rw [List.countP_eq_zero]
      intro t ht
      cases t with
      | running s => exact absurd ⟨s, ht⟩ reading
      | waiting | admitted | finished => exact Bool.false_ne_true
    by_cases admitted : ∃ s, Task.admitted s ∈ tasks
    · obtain ⟨s, hs⟩ := admitted
      obtain ⟨before, after, rfl⟩ := List.append_of_mem hs
      obtain ⟨others, rfl⟩ : ∃ n, idle = n + 1 := ⟨idle - 1, by omega⟩
      exact ⟨_, _, .start permits others before s after⟩
    · have none_held : tasks.countP Task.holdsPermit = 0 := by
        rw [List.countP_eq_zero]
        intro t ht
        cases t with
        | running s => exact absurd ⟨s, ht⟩ reading
        | admitted s => exact absurd ⟨s, ht⟩ admitted
        | waiting | finished => exact Bool.false_ne_true
      obtain ⟨t, ht, open_⟩ := unfinished
      cases t with
      | waiting s =>
        obtain ⟨before, after, rfl⟩ := List.append_of_mem ht
        obtain ⟨others, rfl⟩ : ∃ n, permits = n + 1 := ⟨permits - 1, by omega⟩
        exact ⟨_, _, .acquire others idle before s after⟩
      | admitted s => exact absurd ⟨s, ht⟩ admitted
      | running s => exact absurd ⟨s, ht⟩ reading
      | finished r => cases open_

theorem Run.trans {r : Pool} {fs : List Event} (first : Run table w p es q) (second : Run table w q fs r) :
    Run table w p (es ++ fs) r := by
  induction second with
  | nil => rwa [List.append_nil]
  | snoc _ step ih =>
    rw [← List.append_assoc]
    exact ih.snoc step

/-- Every step leaves fewer to come, so that going on ends with all results. -/
theorem Sound.exists_run (h : Sound table w limit submitted es p) (positive : 1 ≤ limit) :
    ∃ fs q results, Run table w p fs q ∧ q.gathered? = some results := by
  induction left : stepsLeft p.tasks using Nat.strongRecOn generalizing es p with
  | ind n ih =>
    cases all : p.gathered? with
    | some results => exact ⟨[], p, results, .nil, all⟩
    | none =>
      obtain ⟨e, q, step⟩ := h.exists_step positive (gathered?_eq_none.1 all)
      have next := h.step step
      have fewer : stepsLeft q.tasks < n := by
        have before := h.steps
        have after := next.steps
        rw [List.length_append, List.length_singleton] at after
        omega
      obtain ⟨fs, r, results, run, all⟩ := ih _ fewer next rfl
      exact ⟨[] ++ [e] ++ fs, r, results, (Run.nil.snoc step).trans run, all⟩

/-- However the steps on the submitted files are interleaved, no more files than the limit are read at once; as long as
a task is unfinished there is a next step, and the steps can be carried on until every file has its result. Then each
file has been admitted, started and finished once, and the results, and with them the report, are those of scanning
the files one after the other. -/
theorem run_interleaved (table : ParserTable) (w : Watchlist) (submitted : List Submission) {limit : Nat}
    (positive : 1 ≤ limit) {es : List Event} {p : Pool} (h : Run table w (start limit submitted) es p) :
    p.reading ≤ limit ∧
    (∀ i, movesAt es i <+: if i < submitted.length then allMoves else []) ∧
    ((∃ t ∈ p.tasks, t.result? = none) → ∃ e q, Step table w p e q) ∧
    (∃ fs q results, Run table w p fs q ∧ q.gathered? = some results) ∧
    ∀ results, p.gathered? = some results →
      (∀ i, movesAt es i = if i < submitted.length then allMoves else []) ∧
      results = submitted.map (scanFile table w) ∧
      ∀ depth root tree stamp, table = ParserTable.standard depth →
        submitted = submissions (Walk.visits Walk.ignoredNames root tree) →
        (assemble w root stamp results).1 = (scanTree depth w root tree stamp).1 := by
  have sound : Sound table w limit submitted es p := by
    simpa using (sound_start table w limit submitted).run h
  have size : p.tasks.length = submitted.length := sound.tasks.length_eq.symm
  refine ⟨sound.reading_le, ?_, sound.exists_step positive, sound.exists_run positive, ?_⟩
  · intro i
    rw [sound.moves]
    by_cases hi : i < submitted.length
    · rw [if_pos hi]
      exact List.take_prefix ..
    · rw [if_neg hi, stageAt_outside (by omega)]
      exact List.prefix_rfl
  · intro results all
    have scanned := sound.gathered all
    refine ⟨?_, scanned, ?_⟩
    · intro i
      rw [sound.moves]
      by_cases hi : i < submitted.length
      · have inside : i < p.tasks.length := by omega
        have last : stageAt p.tasks i = 3 := by
          rw [stageAt, List.getElem?_eq_getElem inside, Option.map_some, Option.getD_some]
          exact stage_of_gathered all (List.getElem_mem inside)
        rw [if_pos hi, last]
        rfl
      · rw [if_neg hi, stageAt_outside (by omega)]
        rfl
    · rintro depth root tree stamp rfl rfl
      rw [scanned]
      rfl

def lockfileSubmission (directory : Text) (readable : Bool) : Submission :=
  ⟨⟨⟨.root, [directory, FileKind.lockfile.fileName]⟩, .lockfile⟩, readable,
    Utf8.encode "lodash@^1:\n  version \"1\"\n".toList⟩

/-- Two files are read at once; the later one, which cannot be opened, is done first. -/
theorem run_interleaved_overtaken :
    let w := Watchlist.parse "lodash: 1".toList
    let submitted := [lockfileSubmission "a".toList true, lockfileSubmission "b".toList false]
    let es : List Event := [⟨1, .acquire⟩, ⟨0, .acquire⟩, ⟨0, .start⟩, ⟨1, .start⟩, ⟨1, .finish⟩, ⟨0, .finish⟩]
    1 ≤ 2 ∧ ∃ p results, Run (ParserTable.standard 1000) w (start 2 submitted) es p ∧ p.gathered? = some results ∧
      results = submitted.map (scanFile (ParserTable.standard 1000) w) ∧
      results.map (fun r => (r.readable, r.findings.length)) = [(true, 1), (false, 0)] := by
  intro w submitted es
  let a := lockfileSubmission "a".toList true
  let b := lockfileSubmission "b".toList false
  let done (s : Submission) : Task := .finished (scanFile (ParserTable.standard 1000) w s)
  have admitted : Run (ParserTable.standard 1000) w (start 2 submitted) (es.take 2) ⟨0, 2, [.admitted a, .admitted b]⟩ :=
    (Run.nil.snoc (.acquire 1 2 [.waiting a] b [])).snoc (.acquire 0 2 [] a [.admitted b])
  have running : Run (ParserTable.standard 1000) w (start 2 submitted) (es.take 4) ⟨0, 0, [.running a, .running b]⟩ :=
    (admitted.snoc (.start 0 1 [] a [.admitted b])).snoc (.start 0 0 [.running a] b [])
  have finished : Run (ParserTable.standard 1000) w (start 2 submitted) es ⟨2, 2, [done a, done b]⟩ :=
    (running.snoc (.finish 0 0 [.running a] b [])).snoc (.finish 1 1 [] a [done b])
  obtain ⟨-, -, -, -, same⟩ := run_interleaved (ParserTable.standard 1000) w submitted (by decide) finished
  obtain ⟨-, results, -⟩ := same _ rfl
  exact ⟨by decide, _, _, finished, rfl, results, by decide +kernel⟩

end Pool

end DependencyAudit.Audit
