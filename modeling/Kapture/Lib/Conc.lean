import Mathlib.Tactic.Basic

/-!
# A program among others

A sequential program is a tree of operations on a shared state: it performs one, is
given the answer and goes on. Between any two of its operations others may act on the
state. A `Machine` has one slot for such a program, which is entered, runs to its end or
is lost in a crash, and is entered again.

What every reachable state satisfies is proved with `Reach.holds`: an invariant that
the others keep, and that the program keeps when it is run from its start (`Safe`). The
rules for `Safe` are those of a Hoare logic in which every assertion is `Stable`: the
others cannot make it false.
-/

namespace Conc

/-- A program over operations `Op`, where `op` is answered by an `Ans op`. -/
inductive Prog (Op : Type) (Ans : Op → Type) (α : Type) where
  | ret (a : α)
  | call (op : Op) (k : Ans op → Prog Op Ans α)

variable {S Op : Type} {Ans : Op → Type} {α β ι A C : Type}

def Prog.bind : Prog Op Ans α → (α → Prog Op Ans β) → Prog Op Ans β
  | .ret a, f => f a
  | .call op k, f => .call op fun r => (k r).bind f

@[simp] theorem Prog.call_bind (op : Op) (k : Ans op → Prog Op Ans α) (f : α → Prog Op Ans β) :
    (Prog.call op k).bind f = .call op fun r => (k r).bind f := rfl

theorem Prog.bind_assoc {γ : Type} (p : Prog Op Ans α) (f : α → Prog Op Ans β)
    (g : β → Prog Op Ans γ) : (p.bind f).bind g = p.bind fun a => (f a).bind g := by
  induction p with
  | ret a => rfl
  | call op k ih =>
      rw [Prog.call_bind, Prog.call_bind, Prog.call_bind]
      exact congrArg _ (funext ih)

/-- Every operation of the program is a `φ`. -/
def Prog.Only (φ : Op → Prop) : Prog Op Ans α → Prop
  | .ret _ => True
  | .call op k => φ op ∧ ∀ r, (k r).Only φ

theorem Prog.Only.mono {φ ψ : Op → Prop} {p : Prog Op Ans α} (hp : p.Only φ)
    (h : ∀ op, φ op → ψ op) : p.Only ψ := by
  induction p with
  | ret a => trivial
  | call op k ih => exact ⟨h op hp.1, fun r => ih r (hp.2 r)⟩

theorem Prog.Only.bind {φ : Op → Prop} {p : Prog Op Ans α} {f : α → Prog Op Ans β}
    (hp : p.Only φ) (hf : ∀ b, (f b).Only φ) : (p.bind f).Only φ := by
  induction p with
  | ret b => exact hf b
  | call op k ih => exact ⟨hp.1, fun r => ih r (hp.2 r)⟩

theorem Prog.bind_ret (p : Prog Op Ans α) : p.bind .ret = p := by
  induction p with
  | ret a => rfl
  | call op k ih => exact congrArg _ (funext ih)

/-- Every value that the program may return is a `φ`. -/
def Prog.Returns (φ : α → Prop) : Prog Op Ans α → Prop
  | .ret a => φ a
  | .call _ k => ∀ r, (k r).Returns φ

theorem Prog.returns_bind {φ : β → Prop} (p : Prog Op Ans α) {f : α → Prog Op Ans β}
    (hf : ∀ a, (f a).Returns φ) : (p.bind f).Returns φ := by
  induction p with
  | ret a => exact hf a
  | call op k ih => exact ih

/-- As long as its answers are `ok`, the program comes to an operation of which `P` holds, with
what it then does. -/
def Prog.Comes (ok : (op : Op) → Ans op → Prop) (P : (op : Op) → (Ans op → Prog Op Ans α) → Prop) :
    Prog Op Ans α → Prop
  | .ret _ => False
  | .call op k => P op k ∨ ∀ r, ok op r → (k r).Comes ok P

theorem Prog.comes_bind {ok : (op : Op) → Ans op → Prop}
    {P : (op : Op) → (Ans op → Prog Op Ans β) → Prop} (p : Prog Op Ans α) {f : α → Prog Op Ans β}
    (hf : ∀ a, (f a).Comes ok P) : (p.bind f).Comes ok P := by
  induction p with
  | ret a => exact hf a
  | call op k ih => exact .inr fun r _ => ih r

theorem Prog.Comes.mono {ok : (op : Op) → Ans op → Prop}
    {P Q : (op : Op) → (Ans op → Prog Op Ans α) → Prop} {p : Prog Op Ans α} (hp : p.Comes ok P)
    (h : ∀ op k, P op k → Q op k) : p.Comes ok Q := by
  induction p with
  | ret a => exact hp
  | call op k ih => exact hp.imp (h op k) fun hnext r hr => ih r (hnext r hr)

/-! ## A program by itself -/

/-- Runs the program while nobody else acts. -/
def Prog.eval (exec : (op : Op) → S → Option (Ans op × S)) : Prog Op Ans α → S → Option (α × S)
  | .ret a, s => some (a, s)
  | .call op k, s => (exec op s).bind fun x => (k x.1).eval exec x.2

section Eval

variable {exec : (op : Op) → S → Option (Ans op × S)}

theorem Prog.eval_call {op : Op} {k : Ans op → Prog Op Ans α} {s s' : S} {r : Ans op}
    (h : exec op s = some (r, s')) : (Prog.call op k).eval exec s = (k r).eval exec s' := by
  rw [Prog.eval, h]
  rfl

/-- It comes to an end if every operation does. -/
theorem Prog.eval_isSome (h : ∀ op s, (exec op s).isSome = true) (p : Prog Op Ans α) (s : S) :
    ∃ a t, p.eval exec s = some (a, t) := by
  induction p generalizing s with
  | ret a => exact ⟨a, s, rfl⟩
  | call op k ih =>
      obtain ⟨x, hx⟩ := Option.isSome_iff_exists.mp (h op s)
      obtain ⟨a, t, ht⟩ := ih x.1 x.2
      exact ⟨a, t, (Prog.eval_call hx).trans ht⟩

theorem Prog.Returns.eval {φ : α → Prop} {p : Prog Op Ans α} (hp : p.Returns φ) {s t : S} {a : α}
    (h : p.eval exec s = some (a, t)) : φ a := by
  induction p generalizing s with
  | ret b =>
      cases h
      exact hp
  | call op k ih =>
      obtain ⟨x, -, hx⟩ := Option.bind_eq_some_iff.mp h
      exact ih x.1 (hp x.1) hx

/-- What all its operations keep, the program keeps. -/
theorem Prog.Only.eval {φ : Op → Prop} {P : S → Prop}
    (hkeep : ∀ {op s r s'}, φ op → exec op s = some (r, s') → P s → P s') {p : Prog Op Ans α}
    (hp : p.Only φ) {s t : S} {a : α} (h : p.eval exec s = some (a, t)) (hs : P s) : P t := by
  induction p generalizing s with
  | ret b =>
      cases h
      exact hs
  | call op k ih =>
      obtain ⟨x, hx, hrest⟩ := Option.bind_eq_some_iff.mp h
      exact ih x.1 (hp.2 x.1) hrest (hkeep hp.1 hx hs)

end Eval

/-- One program slot `ι` beside others who act by `A`; an operation's outcome depends
on a choice `C`. -/
structure Machine (S Op : Type) (Ans : Op → Type) (α ι A C : Type) where
  exec : (op : Op) → C → S → Option (Ans op × S)
  act : A → S → Option S
  prog : ι → Prog Op Ans α
  enter : ι → S → S
  leave : ι → α → S → S
  crash : S → S

/-- What a step is, for conditions on runs. -/
inductive Label (Op ι A C : Type) where
  | act (a : A)
  | enter (i : ι)
  | op (op : Op) (c : C)
  | crash

/-- The shared state and the program under way. -/
structure Config (S Op : Type) (Ans : Op → Type) (α ι : Type) where
  state : S
  pc : Option (ι × Prog Op Ans α)

namespace Machine

variable (m : Machine S Op Ans α ι A C) (ok : Label Op ι A C → S → Prop)

inductive Step : Config S Op Ans α ι → Config S Op Ans α ι → Prop
  | act {a : A} {s s' : S} {pc : Option (ι × Prog Op Ans α)} :
      ok (.act a) s → m.act a s = some s' → Step ⟨s, pc⟩ ⟨s', pc⟩
  | enter {i : ι} {s : S} :
      ok (.enter i) s → Step ⟨s, none⟩ ⟨m.enter i s, some (i, m.prog i)⟩
  | op {i : ι} {op : Op} {k : Ans op → Prog Op Ans α} {c : C} {s s' : S} {r : Ans op} :
      ok (.op op c) s → m.exec op c s = some (r, s') →
        Step ⟨s, some (i, .call op k)⟩ ⟨s', some (i, k r)⟩
  | leave {i : ι} {a : α} {s : S} : Step ⟨s, some (i, .ret a)⟩ ⟨m.leave i a s, none⟩
  | crash {s : S} {pc : Option (ι × Prog Op Ans α)} :
      ok .crash s → Step ⟨s, pc⟩ ⟨m.crash s, none⟩

/-- What is reached from `s₀` when every step meets `ok`. -/
inductive Reach (s₀ : S) : Config S Op Ans α ι → Prop
  | start : Reach s₀ ⟨s₀, none⟩
  | step {c c' : Config S Op Ans α ι} : Reach s₀ c → Step m ok c c' → Reach s₀ c'

/-- No condition on the steps. -/
def always : Label Op ι A C → S → Prop := fun _ _ => True

theorem Reach.mono {ok' : Label Op ι A C → S → Prop} (h : ∀ l s, ok l s → ok' l s) {s₀ : S}
    {c : Config S Op Ans α ι} (hr : m.Reach ok s₀ c) : m.Reach ok' s₀ c := by
  induction hr with
  | start => exact .start
  | step _ hs ih =>
      refine ih.step ?_
      cases hs with
      | act ha h' => exact .act (h _ _ ha) h'
      | enter ha => exact .enter (h _ _ ha)
      | op ha h' => exact .op (h _ _ ha) h'
      | leave => exact .leave
      | crash ha => exact .crash (h _ _ ha)

/-! ## Assertions and programs -/

/-- The others do not make `P` false. -/
def Stable (P : S → Prop) : Prop :=
  ∀ a s s', ok (.act a) s → m.act a s = some s' → P s → P s'

/-- From `s` on the program keeps `I`, whatever the others do between its operations, and
ends in `Q`. -/
def Safe (I : S → Prop) (Q : β → S → Prop) : Prog Op Ans β → S → Prop
  | .ret a, s => ∃ P : S → Prop, P s ∧ m.Stable ok P ∧ ∀ t, P t → I t ∧ Q a t
  | .call op k, s => ∃ P : S → Prop, P s ∧ m.Stable ok P ∧ (∀ t, P t → I t) ∧
      ∀ t c r t', P t → ok (.op op c) t → m.exec op c t = some (r, t') → Safe I Q (k r) t'

variable {m ok} {I : S → Prop} {Q : β → S → Prop}

theorem Safe.inv {p : Prog Op Ans β} {s : S} (h : m.Safe ok I Q p s) : I s := by
  cases p with
  | ret a =>
      obtain ⟨P, hs, _, hP⟩ := h
      exact (hP s hs).1
  | call op k =>
      obtain ⟨P, hs, _, hP, _⟩ := h
      exact hP s hs

theorem Safe.act {p : Prog Op Ans β} {a : A} {s s' : S} (h : m.Safe ok I Q p s)
    (ha : ok (.act a) s) (hs : m.act a s = some s') : m.Safe ok I Q p s' := by
  cases p with
  | ret b =>
      obtain ⟨P, hPs, hst, hP⟩ := h
      exact ⟨P, hst a s s' ha hs hPs, hst, hP⟩
  | call op k =>
      obtain ⟨P, hPs, hst, hP⟩ := h
      exact ⟨P, hst a s s' ha hs hPs, hst, hP⟩

/-- **What every reachable state satisfies.** -/
theorem Reach.holds {s₀ : S} {c : Config S Op Ans α ι} (hr : m.Reach ok s₀ c) (h₀ : I s₀)
    (hact : m.Stable ok I)
    (henter : ∀ i s, ok (.enter i) s → I s →
      m.Safe ok I (fun a t => I (m.leave i a t)) (m.prog i) (m.enter i s))
    (hcrash : ∀ s, ok .crash s → I s → I (m.crash s)) : I c.state := by
  suffices h : I c.state ∧ ∀ i p, c.pc = some (i, p) →
      m.Safe ok I (fun a t => I (m.leave i a t)) p c.state from h.1
  induction hr with
  | start => exact ⟨h₀, nofun⟩
  | step _ hs ih =>
      obtain ⟨hI, hpc⟩ := ih
      cases hs with
      | act ha h' => exact ⟨hact _ _ _ ha h' hI, fun i p hp => (hpc i p hp).act ha h'⟩
      | enter ha =>
          have hsafe := henter _ _ ha hI
          refine ⟨hsafe.inv, ?_⟩
          rintro i p ⟨⟩
          exact hsafe
      | op ha h' =>
          obtain ⟨P, hPs, _, _, hnext⟩ := hpc _ _ rfl
          have hsafe := hnext _ _ _ _ hPs ha h'
          refine ⟨hsafe.inv, ?_⟩
          rintro i p ⟨⟩
          exact hsafe
      | leave =>
          obtain ⟨P, hPs, _, hP⟩ := hpc _ _ rfl
          exact ⟨(hP _ hPs).2, nofun⟩
      | crash ha => exact ⟨hcrash _ ha hI, nofun⟩

/-! ## The rules -/

variable (m ok I) in
/-- From states with `I` and `F` the program keeps `I` and ends in `Q`. -/
def Triple (F : S → Prop) (p : Prog Op Ans β) (Q : β → S → Prop) : Prop :=
  ∀ s, I s → F s → m.Safe ok I Q p s

theorem Stable.and {P R : S → Prop} (hP : m.Stable ok P) (hR : m.Stable ok R) :
    m.Stable ok fun s => P s ∧ R s :=
  fun a s s' ha hs h => ⟨hP a s s' ha hs h.1, hR a s s' ha hs h.2⟩

theorem Stable.or {P R : S → Prop} (hP : m.Stable ok P) (hR : m.Stable ok R) :
    m.Stable ok fun s => P s ∨ R s :=
  fun a s s' ha hs h => h.imp (hP a s s' ha hs) (hR a s s' ha hs)

theorem stable_const (φ : Prop) : m.Stable ok fun _ => φ := fun _ _ _ _ _ h => h

theorem Triple.ret {F : S → Prop} {a : β} (hI : m.Stable ok I) (hF : m.Stable ok F)
    (h : ∀ t, I t → F t → Q a t) : m.Triple ok I F (.ret a) Q := by
  intro s hIs hFs
  exact ⟨fun t => I t ∧ F t, ⟨hIs, hFs⟩, hI.and hF, fun t ht => ⟨ht.1, h t ht.1 ht.2⟩⟩

theorem Triple.call {F : S → Prop} {op : Op} {k : Ans op → Prog Op Ans β}
    (M : Ans op → S → Prop) (hI : m.Stable ok I) (hF : m.Stable ok F)
    (hop : ∀ t c r t', I t → F t → ok (.op op c) t → m.exec op c t = some (r, t') →
      I t' ∧ M r t')
    (hk : ∀ r, m.Triple ok I (M r) (k r) Q) : m.Triple ok I F (.call op k) Q := by
  intro s hIs hFs
  refine ⟨fun t => I t ∧ F t, ⟨hIs, hFs⟩, hI.and hF, fun t ht => ht.1, ?_⟩
  intro t c r t' ht hok hex
  obtain ⟨hI', hM⟩ := hop t c r t' ht.1 ht.2 hok hex
  exact hk r t' hI' hM

theorem Triple.pre {F F' : S → Prop} {p : Prog Op Ans β} (h : m.Triple ok I F p Q)
    (hF : ∀ s, I s → F' s → F s) : m.Triple ok I F' p Q :=
  fun s hIs hFs => h s hIs (hF s hIs hFs)

/-- The program ends, and only the invariant matters. -/
theorem Triple.done {F : S → Prop} {a : β} (hI : m.Stable ok I) (h : ∀ t, I t → Q a t) :
    m.Triple ok I F (.ret a) Q :=
  (Triple.ret hI (stable_const True) fun t hIt _ => h t hIt).pre fun _ _ _ => trivial

theorem Triple.post {F : S → Prop} {R : β → S → Prop} {p : Prog Op Ans β}
    (h : m.Triple ok I F p Q) (hQ : ∀ a s, I s → Q a s → R a s) : m.Triple ok I F p R := by
  have key : ∀ (p : Prog Op Ans β) (s : S), m.Safe ok I Q p s → m.Safe ok I R p s := by
    intro p
    induction p with
    | ret a =>
        rintro s ⟨P, hPs, hst, hP⟩
        exact ⟨P, hPs, hst, fun t ht => ⟨(hP t ht).1, hQ a t (hP t ht).1 (hP t ht).2⟩⟩
    | call op k ih =>
        rintro s ⟨P, hPs, hst, hPI, hnext⟩
        exact ⟨P, hPs, hst, hPI, fun t c r t' ht hok hex => ih r t' (hnext t c r t' ht hok hex)⟩
  exact fun s hIs hFs => key p s (h s hIs hFs)

/-- What is known about the data of a program, apart from the state. -/
theorem Triple.pure {F : S → Prop} {φ : Prop} {p : Prog Op Ans β}
    (h : φ → m.Triple ok I F p Q) : m.Triple ok I (fun s => φ ∧ F s) p Q :=
  fun s hIs hFs => h hFs.1 s hIs hFs.2

theorem Triple.bind {γ : Type} {F : S → Prop} {R : γ → S → Prop} {p : Prog Op Ans γ}
    {f : γ → Prog Op Ans β} (hp : m.Triple ok I F p R)
    (hf : ∀ b, m.Triple ok I (R b) (f b) Q) : m.Triple ok I F (p.bind f) Q := by
  have key : ∀ (p : Prog Op Ans γ) (s : S), m.Safe ok I R p s → m.Safe ok I Q (p.bind f) s := by
    intro p
    induction p with
    | ret b =>
        intro s hs
        obtain ⟨P, hPs, _, hP⟩ := hs
        exact hf b s (hP s hPs).1 (hP s hPs).2
    | call op k ih =>
        intro s hs
        obtain ⟨P, hPs, hst, hPI, hnext⟩ := hs
        exact ⟨P, hPs, hst, hPI, fun t c r t' ht hok hex => ih r t' (hnext t c r t' ht hok hex)⟩
  exact fun s hIs hFs => key p s (hp s hIs hFs)

/-! ## Running a machine -/

/-- A step to be taken. -/
inductive Move (ι A C : Type) where
  | act (a : A)
  | enter (i : ι)
  | op (c : C)
  | leave
  | crash

variable (m) in
def move : Move ι A C → Config S Op Ans α ι → Option (Config S Op Ans α ι)
  | .act a, ⟨s, pc⟩ => (m.act a s).map fun s' => ⟨s', pc⟩
  | .enter i, ⟨s, none⟩ => some ⟨m.enter i s, some (i, m.prog i)⟩
  | .op c, ⟨s, some (i, .call op k)⟩ => (m.exec op c s).map fun x => ⟨x.2, some (i, k x.1)⟩
  | .leave, ⟨s, some (i, .ret a)⟩ => some ⟨m.leave i a s, none⟩
  | .crash, ⟨s, _⟩ => some ⟨m.crash s, none⟩
  | _, _ => none

/-- The label of a move. -/
def Move.label : Move ι A C → Config S Op Ans α ι → Option (Label Op ι A C)
  | .act a, _ => some (.act a)
  | .enter i, _ => some (.enter i)
  | .op c, ⟨_, some (_, .call o _)⟩ => some (.op o c)
  | .crash, _ => some .crash
  | _, _ => none

variable (m) in
/-- Makes the moves, as long as each of them meets a condition that can be checked. -/
def run (check : Label Op ι A C → S → Bool) :
    List (Move ι A C) → Config S Op Ans α ι → Option (Config S Op Ans α ι)
  | [], c => some c
  | mv :: rest, c =>
      if (mv.label c).all fun l => check l c.state then (m.move mv c).bind (run check rest)
      else none

variable {check : Label Op ι A C → S → Bool}

theorem step_of_move {mv : Move ι A C} {c c' : Config S Op Ans α ι}
    (hcheck : ∀ l, mv.label c = some l → ok l c.state) (h : m.move mv c = some c') :
    m.Step ok c c' := by
  unfold move at h
  split at h
  · obtain ⟨s', hs, rfl⟩ := Option.map_eq_some_iff.mp h
    exact .act (hcheck _ rfl) hs
  · cases h
    exact .enter (hcheck _ rfl)
  · obtain ⟨x, hs, rfl⟩ := Option.map_eq_some_iff.mp h
    exact .op (hcheck _ rfl) hs
  · cases h
    exact .leave
  · cases h
    exact .crash (hcheck _ rfl)
  · cases h

theorem reach_of_run (hok : ∀ l s, check l s = true → ok l s) {s₀ : S} {mvs : List (Move ι A C)}
    {c c' : Config S Op Ans α ι} (hc : m.Reach ok s₀ c) (h : m.run check mvs c = some c') :
    m.Reach ok s₀ c' := by
  induction mvs generalizing c with
  | nil =>
      cases h
      exact hc
  | cons mv rest ih =>
      unfold run at h
      split at h
      · rename_i hall
        obtain ⟨d, hd, hrest⟩ := Option.bind_eq_some_iff.mp h
        refine ih (hc.step (step_of_move (fun l hl => hok _ _ ?_) hd)) hrest
        rw [hl] at hall
        exact hall
      · cases h

/-- A run that ends in a configuration with a decidable property. -/
theorem exists_config_of_run (hok : ∀ l s, check l s = true → ok l s) {s₀ : S}
    {mvs : List (Move ι A C)} {P : Config S Op Ans α ι → Bool}
    (h : (m.run check mvs ⟨s₀, none⟩).any P = true) : ∃ c, m.Reach ok s₀ c ∧ P c = true := by
  cases hrun : m.run check mvs ⟨s₀, none⟩ with
  | none =>
      rw [hrun] at h
      cases h
  | some c =>
      rw [hrun] at h
      exact ⟨c, reach_of_run hok .start hrun, h⟩

theorem exists_of_run (hok : ∀ l s, check l s = true → ok l s) {s₀ : S}
    {mvs : List (Move ι A C)} {P : S → Bool}
    (h : (m.run check mvs ⟨s₀, none⟩).any (fun c => P c.state) = true) :
    ∃ c, m.Reach ok s₀ c ∧ P c.state = true :=
  exists_config_of_run (P := fun c => P c.state) hok h

end Machine

end Conc
