import Mathlib.Data.List.Infix

/-
  DroidCam/Lib/LabelledRun.lean
  =============================
  **Finite runs of a labelled transition relation.**

  A label carries everything a step takes from outside: which party moves, the
  arguments of a call, the result of a system call.  A run is the list of its
  labels, so a fact about the inputs of a run is a fact about that list.

  * `Run.invariant`, `Run.simulation` — what one step preserves, a run preserves;
  * `Run.length_le` — what one step makes smaller bounds the length of a run;
  * `Guarded` — the steps whose state before and label meet a condition, and
    `Run.of_guarded`, `Run.guarded_iff`, `Run.guarded_of_lost` which connect the
    runs of both;
  * `Along` — what holds of every label attempted, and `along_iff`, where the last
    of them may have no step;
  * `execute` — runs of an executable step function.
-/

namespace LabelledRun

variable {σ : Type*} {α : Type*} {step : σ → α → σ → Prop}

/-- `Run step s as t`: the labels `as`, in order, take `s` to `t`. -/
inductive Run (step : σ → α → σ → Prop) : σ → List α → σ → Prop
  | nil (s : σ) : Run step s [] s
  | snoc {s t u : σ} {as : List α} {a : α} :
      Run step s as t → step t a u → Run step s (as ++ [a]) u

theorem Run.single {s t : σ} {a : α} (h : step s a t) : Run step s [a] t :=
  Run.snoc (Run.nil s) h

theorem Run.append {s t u : σ} {as bs : List α} (h₁ : Run step s as t)
    (h₂ : Run step t bs u) : Run step s (as ++ bs) u := by
  induction h₂ with
  | nil => simpa using h₁
  | snoc _ hstep ih =>
      rw [← List.append_assoc]
      exact Run.snoc ih hstep

/-- **The invariant rule.**  A property of the start that every step preserves
    holds in every state reached. -/
theorem Run.invariant {inv : σ → Prop} {s t : σ} {as : List α}
    (hstep : ∀ s a t, inv s → step s a t → inv t) (hs : inv s)
    (h : Run step s as t) : inv t := by
  induction h with
  | nil => exact hs
  | snoc _ ha ih => exact hstep _ _ _ ih ha

/-- **The counting rule.**  Where the labels in `ok` keep an invariant and make a rank
    smaller, a run of them is no longer than the rank of its start. -/
theorem Run.length_le {inv : σ → Prop} {ok : α → Prop} {rank : σ → ℕ} {s t : σ} {as : List α}
    (hstep : ∀ s a t, inv s → ok a → step s a t → inv t ∧ rank t < rank s) (hs : inv s)
    (has : ∀ a ∈ as, ok a) (h : Run step s as t) : inv t ∧ rank t + as.length ≤ rank s := by
  induction h with
  | nil => exact ⟨hs, Nat.le_refl _⟩
  | @snoc _ _ _ a _ ha ih =>
      obtain ⟨hinv, hle⟩ := ih fun b hb => has b (List.mem_append_left [a] hb)
      obtain ⟨hinv', hlt⟩ := hstep _ _ _ hinv (has a (by simp)) ha
      refine ⟨hinv', ?_⟩
      rw [List.length_append, List.length_singleton]
      omega

/-- The same runs under a weaker relation. -/
theorem Run.mono {step' : σ → α → σ → Prop} {s t : σ} {as : List α}
    (hle : ∀ s a t, step s a t → step' s a t) (h : Run step s as t) :
    Run step' s as t := by
  induction h with
  | nil => exact Run.nil _
  | snoc _ ha ih => exact Run.snoc ih (hle _ _ _ ha)

/-- **The simulation rule.**  Where each step from related states is matched by a
    run that relates the states after it, so is a run. -/
theorem Run.simulation {τ β : Type*} {step' : τ → β → τ → Prop} {rel : σ → τ → Prop}
    (hstep : ∀ s a t u, rel s u → step s a t → ∃ bs v, Run step' u bs v ∧ rel t v)
    {s t : σ} {u : τ} {as : List α} (hs : rel s u) (h : Run step s as t) :
    ∃ bs v, Run step' u bs v ∧ rel t v := by
  induction h with
  | nil => exact ⟨[], u, Run.nil u, hs⟩
  | snoc _ ha ih =>
      obtain ⟨bs, v, hrun, hv⟩ := ih
      obtain ⟨cs, w, hrun', hw⟩ := hstep _ _ _ v hv ha
      exact ⟨bs ++ cs, w, hrun.append hrun', hw⟩

/-! ### Guarded steps

A condition on the steps of a run is a guard. What the condition is enough for is an
invariant of the guarded runs, and what it is needed for goes back from the state after
a step to the step. -/

/-- The steps of `step` whose state before and label meet `ok`. -/
def Guarded (ok : σ → α → Prop) (step : σ → α → σ → Prop) : σ → α → σ → Prop :=
  fun s a t => ok s a ∧ step s a t

theorem Run.of_guarded {ok : σ → α → Prop} {s t : σ} {as : List α}
    (h : Run (Guarded ok step) s as t) : Run step s as t :=
  h.mono fun _ _ _ hstep => hstep.2

theorem Run.nil_iff {s t : σ} : Run step s [] t ↔ s = t := by
  constructor
  · intro h
    generalize hcs : ([] : List α) = cs at h
    cases h with
    | nil => rfl
    | snoc _ _ => simp at hcs
  · rintro rfl
    exact Run.nil s

/-- A run with a last label is a run of the others and one step. -/
theorem Run.snoc_iff {s u : σ} {as : List α} {a : α} :
    Run step s (as ++ [a]) u ↔ ∃ t, Run step s as t ∧ step t a u := by
  constructor
  · intro h
    generalize hcs : as ++ [a] = cs at h
    cases h with
    | nil => simp at hcs
    | snoc hrun hb =>
        obtain ⟨rfl, hab⟩ := List.append_inj' hcs rfl
        obtain rfl : _ = _ := List.cons.inj hab |>.1
        exact ⟨_, hrun, hb⟩
  · rintro ⟨t, hrun, hstep⟩
    exact Run.snoc hrun hstep

theorem Run.deterministic (hdet : ∀ s a t t', step s a t → step s a t' → t = t')
    {s t t' : σ} {as : List α} (h : Run step s as t) (h' : Run step s as t') : t = t' := by
  induction h generalizing t' with
  | nil => exact Run.nil_iff.mp h'
  | snoc _ ha ih =>
      obtain ⟨u, hrun, hstep⟩ := Run.snoc_iff.mp h'
      obtain rfl := ih hrun
      exact hdet _ _ _ _ ha hstep

/-- Suppose `aux` is invariant, and `inv` is kept by the steps that meet `ok` and
    makes a state good, while a step from `inv` that leads to a good state meets
    `ok`.  Then every state along a run is good exactly when every step of it meets
    `ok`. -/
theorem Run.guarded_iff_of_inv {aux inv good : σ → Prop} {ok : σ → α → Prop}
    (hdet : ∀ s a t t', step s a t → step s a t' → t = t')
    (haux : ∀ s a t, aux s → step s a t → aux t)
    (hgood : ∀ s, aux s → inv s → good s)
    (hkeep : ∀ s a t, aux s → inv s → step s a t → ok s a → inv t)
    (hneed : ∀ s a t, aux s → inv s → step s a t → good t → ok s a)
    {s t : σ} {as : List α} (hs : aux s) (hinv : inv s) (h : Run step s as t) :
    (∀ bs u, bs <+: as → Run step s bs u → good u) ↔ Run (Guarded ok step) s as t := by
  have hreach : ∀ {bs u}, Run (Guarded ok step) s bs u → aux u ∧ inv u := by
    intro bs u hrun
    refine @Run.invariant _ _ _ (fun v => aux v ∧ inv v) _ _ _ ?_ ⟨hs, hinv⟩ hrun
    rintro v a w ⟨hauxv, hinvv⟩ ⟨hok, hstep⟩
    exact ⟨haux v a w hauxv hstep, hkeep v a w hauxv hinvv hstep hok⟩
  induction h with
  -- the guard is vacuous on the empty run, and so is every shorter one
  | nil =>
      refine ⟨fun _ => Run.nil _, fun _ bs u hpre hrun => ?_⟩
      obtain rfl : bs = [] := List.prefix_nil.mp hpre
      exact Run.deterministic hdet (Run.nil _) hrun ▸ hgood _ hs hinv
  | @snoc t u as a hrun ha ih =>
      constructor
      · intro hall
        have hguard := ih.mp fun bs u hpre => hall bs u (hpre.trans (List.prefix_append as [a]))
        have hu : good u := hall _ u (List.prefix_refl _) (Run.snoc hrun ha)
        -- the step is taken from a state that meets the invariant, so the good state
        -- after it says that the guard held
        obtain ⟨hauxt, hinvt⟩ := hreach hguard
        exact Run.snoc hguard ⟨hneed t a u hauxt hinvt ha hu, ha⟩
      · intro hguard bs v hpre hv
        obtain ⟨t', hguard', hok, ha'⟩ := Run.snoc_iff.mp hguard
        obtain rfl : t' = t := Run.deterministic hdet hguard'.of_guarded hrun
        -- a prefix is the whole run, or one of the run before the last step
        rcases List.prefix_concat_iff.mp hpre with rfl | hshort
        · obtain ⟨hauxv, hinvv⟩ := hreach hguard
          have hvu : v = u := Run.deterministic hdet hv (Run.snoc hrun ha)
          exact hvu ▸ hgood u hauxv hinvv
        · exact ih.mpr hguard' bs v hshort hv

/-- The case where being good is what `ok` keeps. -/
theorem Run.guarded_iff {aux good : σ → Prop} {ok : σ → α → Prop}
    (hdet : ∀ s a t t', step s a t → step s a t' → t = t')
    (haux : ∀ s a t, aux s → step s a t → aux t)
    (hstep : ∀ s a t, aux s → good s → step s a t → (good t ↔ ok s a))
    {s t : σ} {as : List α} (hs : aux s) (hgood : good s) (h : Run step s as t) :
    (∀ bs u, bs <+: as → Run step s bs u → good u) ↔ Run (Guarded ok step) s as t :=
  Run.guarded_iff_of_inv hdet haux (fun _ _ hs => hs)
    (fun s a t hauxs hs ha => (hstep s a t hauxs hs ha).mpr)
    (fun s a t hauxs hs ha => (hstep s a t hauxs hs ha).mp) hs hgood h

/-- Suppose no step lowers `lost` and every step that fails `ok` raises it.  Then a
    run that leaves `lost` where it was has only steps that meet `ok`. -/
theorem Run.guarded_of_lost {aux : σ → Prop} {ok : σ → α → Prop} {lost : σ → ℕ}
    (haux : ∀ s a t, aux s → step s a t → aux t)
    (hmono : ∀ s a t, aux s → step s a t → lost s ≤ lost t)
    (hraise : ∀ s a t, aux s → step s a t → ¬ ok s a → lost s < lost t)
    {s t : σ} {as : List α} (hs : aux s) (h : Run step s as t) (hlost : lost t ≤ lost s) :
    Run (Guarded ok step) s as t := by
  induction h with
  | nil => exact Run.nil _
  | @snoc t u as a hrun ha ih =>
      have hinv : aux t ∧ lost s ≤ lost t :=
        @Run.invariant _ _ _ (fun v => aux v ∧ lost s ≤ lost v) _ _ _
          (fun v b w hv hb => ⟨haux v b w hv.1 hb, hv.2.trans (hmono v b w hv.1 hb)⟩)
          ⟨hs, le_rfl⟩ hrun
      obtain ⟨hauxt, hge⟩ := hinv
      have hle : lost t ≤ lost u := hmono t a u hauxt ha
      refine Run.snoc (ih (hle.trans hlost)) ⟨?_, ha⟩
      by_contra hbad
      exact absurd (hraise t a u hauxt ha hbad) (by omega)

/-! ### Attempted steps

The system may refuse a label, and then nothing happens. What is said of all attempts of
a run is said of the labels in the states that find them. -/

/-- `P` holds of every label of `as` in the state that finds it, whether or not
    there is a step for it then. -/
def Along (step : σ → α → σ → Prop) (P : σ → α → Prop) (s : σ) (as : List α) : Prop :=
  ∀ bs a t, bs ++ [a] <+: as → Run step s bs t → P t a

/-- A run along labels that meet `P` is a guarded one. -/
theorem Along.guarded {P : σ → α → Prop} {s t : σ} {as : List α} (h : Along step P s as)
    (hrun : Run step s as t) : Run (Guarded P step) s as t := by
  induction hrun with
  | nil => exact Run.nil s
  | @snoc t u bs a hrun ha ih =>
      have hshorter : Along step P s bs :=
        fun cs b v hcs => h cs b v (hcs.trans (List.prefix_append bs [a]))
      exact Run.snoc (ih hshorter) ⟨h bs a t (List.prefix_refl _) hrun, ha⟩

/-- What a step that meets `P` keeps holds wherever such labels lead. -/
theorem Along.reaches {inv : σ → Prop} {P : σ → α → Prop} {s t : σ} {as bs : List α}
    (hkeep : ∀ s a t, inv s → P s a → step s a t → inv t) (hs : inv s)
    (h : Along step P s as) (hbs : bs <+: as) (hrun : Run step s bs t) : inv t := by
  have hshorter : Along step P s bs := fun cs a u hcs => h cs a u (hcs.trans hbs)
  exact Run.invariant (fun u a v hu hstep => hkeep u a v hu hstep.1 hstep.2) hs
    (hshorter.guarded hrun)

/-- Suppose that in the states of `inv`, which the steps that meet `ok` keep, a label
    is safe exactly when it meets `ok`.  Then all labels along a run are safe
    exactly when all of them meet `ok`. -/
theorem along_iff {inv : σ → Prop} {safe ok : σ → α → Prop} {s : σ} {as : List α}
    (hkeep : ∀ s a t, inv s → ok s a → step s a t → inv t)
    (hiff : ∀ s a, inv s → (safe s a ↔ ok s a)) (hs : inv s) :
    Along step safe s as ↔ Along step ok s as := by
  constructor
  · intro h bs a t hbs hrun
    have hpre : bs <+: as := (List.prefix_append bs [a]).trans hbs
    have hinv : inv t := h.reaches
      (fun u b v hu hsafe => hkeep u b v hu ((hiff u b hu).mp hsafe)) hs hpre hrun
    exact (hiff t a hinv).mp (h bs a t hbs hrun)
  · intro h bs a t hbs hrun
    have hpre : bs <+: as := (List.prefix_append bs [a]).trans hbs
    exact (hiff t a (h.reaches hkeep hs hpre hrun)).mpr (h bs a t hbs hrun)

/-! ### Executable steps

A step function gives the relation, and a run of it is found by computing. -/

/-- The transition relation of an executable step function. -/
def ofNext (next : σ → α → Option σ) : σ → α → σ → Prop := fun s a t => next s a = some t

theorem ofNext_deterministic (next : σ → α → Option σ) (s : σ) (a : α) (t t' : σ)
    (h : ofNext next s a t) (h' : ofNext next s a t') : t = t' :=
  Option.some.inj (h.symm.trans h')

/-- Execute a list of labels; `none` when one of them is not enabled. -/
def execute (next : σ → α → Option σ) : σ → List α → Option σ
  | s, [] => some s
  | s, a :: as => (next s a).bind fun t => execute next t as

theorem execute_append {next : σ → α → Option σ} {as bs : List α} :
    ∀ {s : σ}, execute next s (as ++ bs) = (execute next s as).bind fun t => execute next t bs := by
  induction as with
  | nil => intro s; rfl
  | cons a as ih =>
      intro s
      rw [List.cons_append, execute, execute, Option.bind_assoc]
      congr 1
      funext t
      exact ih

theorem Run.of_execute {next : σ → α → Option σ} {as : List α} :
    ∀ {s t : σ}, execute next s as = some t → Run (ofNext next) s as t := by
  induction as with
  | nil => intro s t h; cases h; exact Run.nil s
  | cons a as ih =>
      intro s u h
      obtain ⟨t, ht, hrest⟩ := Option.bind_eq_some_iff.mp h
      exact Run.append (Run.single ht) (ih hrest)

/-- Take only the steps that meet `ok`. -/
def guard (ok : σ → α → Prop) [∀ s a, Decidable (ok s a)] (next : σ → α → Option σ) :
    σ → α → Option σ := fun s a => if ok s a then next s a else none

theorem guard_step {ok : σ → α → Prop} [∀ s a, Decidable (ok s a)] {next : σ → α → Option σ}
    {s t : σ} {a : α} (h : ofNext (guard ok next) s a t) : Guarded ok (ofNext next) s a t := by
  simp only [ofNext, guard] at h
  split at h
  · rename_i hok
    exact ⟨hok, h⟩
  · cases h

theorem Run.of_execute_guard {ok : σ → α → Prop} [∀ s a, Decidable (ok s a)]
    {next : σ → α → Option σ} {as : List α} {s t : σ}
    (h : execute (guard ok next) s as = some t) : Run (Guarded ok (ofNext next)) s as t :=
  (Run.of_execute h).mono fun _ _ _ hstep => guard_step hstep

end LabelledRun
