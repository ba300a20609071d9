import PartitionHost.Proofs.Host.Requests
import PartitionHost.Proofs.Interleaving.History

/-!
# Courses: one host among others

A host by itself is a task whose requests are answered one after the other (`Task.Ends`). What others do
meanwhile is a relation on clusters: before each answer they may have done whatever the host relies on them
to do (`Cluster.Amid`). `Task.Assures` says what a task ends in, whatever it is answered and whatever others
do, and is proved request by request.
-/

namespace PartitionHost

namespace Task

variable {I J : Interface} {α β σ : Type}

/-- How a task comes to its end, its requests answered one after the other by what `step` allows. -/
inductive Ends (step : (r : I.Request) → σ → I.Answer r → σ → Prop) : Task I α → σ → α → σ → Prop where
  | done (a : α) (s : σ) : Ends step (.done a) s a s
  | ask {r : I.Request} {resume : I.Answer r → Task I α} {s s₁ s' : σ} {x : I.Answer r} {a : α}
      (hx : step r s x s₁) (h : Ends step (resume x) s₁ a s') : Ends step (.ask r resume) s a s'

theorem Ends.of_request {step : (r : I.Request) → σ → I.Answer r → σ → Prop} {r : I.Request} {s s' : σ}
    {x : I.Answer r} (h : (request r).Ends step s x s') : step r s x s' := by
  cases h with
  | ask hx hdone =>
      cases hdone
      exact hx

/-- What is left of a task when some of its requests have been answered. -/
inductive Leads (step : (r : I.Request) → σ → I.Answer r → σ → Prop) : Task I α → σ → Task I α → σ → Prop where
  | start (t : Task I α) (s : σ) : Leads step t s t s
  | answer {t : Task I α} {r : I.Request} {resume : I.Answer r → Task I α} {s s₁ s' : σ} {x : I.Answer r}
      (h : Leads step t s (.ask r resume) s₁) (hx : step r s₁ x s') : Leads step t s (resume x) s'

theorem Leads.ends {step : (r : I.Request) → σ → I.Answer r → σ → Prop} {t t' : Task I α} {s s₁ s' : σ}
    {a : α} (h : t.Leads step s t' s₁) (hend : t'.Ends step s₁ a s') : t.Ends step s a s' := by
  induction h with
  | start => exact hend
  | answer _ hx ih => exact ih (.ask hx hend)

/-- Whatever a task is answered from a state on, `post` holds in the end. -/
def Assures (step : (r : I.Request) → σ → I.Answer r → σ → Prop) :
    Task I α → (α → σ → Prop) → σ → Prop
  | .done a, post, s => post a s
  | .ask r resume, post, s => ∀ x s', step r s x s' → (resume x).Assures step post s'

variable {step step' : (r : I.Request) → σ → I.Answer r → σ → Prop} {s s' : σ}

theorem Ends.mono {t : Task I α} {a : α} (h : t.Ends step s a s')
    (hstep : ∀ r s x s', step r s x s' → step' r s x s') : t.Ends step' s a s' := by
  induction h with
  | done a s => exact .done a s
  | ask hx _ ih => exact .ask (hstep _ _ _ _ hx) ih

theorem assures_iff {t : Task I α} {post : α → σ → Prop} :
    t.Assures step post s ↔ ∀ a s', t.Ends step s a s' → post a s' := by
  constructor
  · intro h a s' hend
    induction hend with
    | done a s => exact h
    | ask hx _ ih => exact ih (h _ _ hx)
  · intro h
    induction t generalizing s with
    | done a => exact h a s (.done a s)
    | ask r resume ih => exact fun x s₁ hx => ih x fun a s' hend => h a s' (.ask hx hend)

@[simp] theorem assures_bind (t : Task I α) (f : α → Task I β) (post : β → σ → Prop) (s : σ) :
    (t.bind f).Assures step post s ↔ t.Assures step (fun a s => (f a).Assures step post s) s := by
  induction t generalizing s with
  | done a => rfl
  | ask r resume ih =>
      simp only [ask_bind, Assures]
      exact forall_congr' fun x => forall_congr' fun s' => imp_congr_right fun _ => ih x s'

theorem Assures.mono {t : Task I α} {post post' : α → σ → Prop} (h : t.Assures step post s)
    (hstep : ∀ r s x s', step' r s x s' → step r s x s') (hpost : ∀ a s, post a s → post' a s) :
    t.Assures step' post' s := by
  induction t generalizing s with
  | done a => exact hpost a s h
  | ask r resume ih => exact fun x s' hx => ih x (h x s' (hstep r s x s' hx))

theorem Assures.imp {t : Task I α} {post post' : α → σ → Prop} (h : t.Assures step post s)
    (hpost : ∀ a s, post a s → post' a s) : t.Assures step post' s :=
  h.mono (fun _ _ _ _ => id) hpost

/-- Where requests are answered by tasks, each of these comes to its end before the next one begins. -/
theorem assures_serve {step : (r : J.Request) → σ → J.Answer r → σ → Prop}
    {answer : (r : I.Request) → Task J (I.Answer r)} {t : Task I α} {post : α → σ → Prop} :
    (t.serve answer).Assures step post s ↔
      t.Assures (fun r s x s' => (answer r).Ends step s x s') post s := by
  induction t generalizing s with
  | done a => rfl
  | ask r resume ih =>
      rw [serve, assures_bind, assures_iff]
      exact forall_congr' fun x => forall_congr' fun s' => imp_congr_right fun _ => ih x

theorem Asks.assures {ok : I.Request → Prop} {keep : σ → Prop} {t : Task I α} (ht : t.Asks ok)
    (hkeep : ∀ r s x s', ok r → step r s x s' → keep s → keep s') (hs : keep s) :
    t.Assures step (fun _ s => keep s) s := by
  induction t generalizing s with
  | done a => exact hs
  | ask r resume ih => exact fun x s' hx => ih x (ht.2 x) (hkeep r s x s' ht.1 hx hs)

/-! ## Programs that can fail -/

theorem Assures.run_bind {p : ExceptT Error (Task I) α} {f : α → ExceptT Error (Task I) β}
    {mid : Except Error α → σ → Prop} {post : Except Error β → σ → Prop}
    (hp : p.run.Assures step mid s) (herror : ∀ e s, mid (.error e) s → post (.error e) s)
    (hok : ∀ a s, mid (.ok a) s → (f a).run.Assures step post s) :
    (p >>= f).run.Assures step post s := by
  rw [Task.run_bind, assures_bind]
  refine hp.imp fun x s hx => ?_
  rcases x with e | a
  · exact herror e s hx
  · exact hok a s hx

end Task

namespace Host

variable {α β σ : Type} {step : (r : Request) → σ → r.Answer → σ → Prop} {s : σ}

theorem assures_ask_bind {r : Request} {f : r.Answer → Program β} {post : Except Error β → σ → Prop}
    (h : ∀ x s', step r s x s' → (f x).run.Assures (I := Surroundings) step post s') :
    (ask r >>= f).run.Assures (I := Surroundings) step post s :=
  h

theorem assures_outcome_bind {p : Program α} {f : Except Error α → Program β}
    {mid : Except Error α → σ → Prop} {post : Except Error β → σ → Prop}
    (hp : p.run.Assures (I := Surroundings) step mid s)
    (hnext : ∀ x s, mid x s → (f x).run.Assures (I := Surroundings) step post s) :
    (outcome p >>= f).run.Assures (I := Surroundings) step post s := by
  have houtcome : (outcome p).run = p.run.bind fun x => .done (.ok x) := rfl
  rw [Task.run_bind, houtcome, Task.bind_assoc, Task.assures_bind]
  exact hp.imp hnext

end Host

/-! ## In a cluster -/

theorem Site.Request.beliefs_of_not {r : Site.Request} (hr : ¬ r.IsOfBeliefs) (t : Table Lease) :
    r.beliefs t = t := by
  cases r with
  | own p l => exact absurd trivial hr
  | disown p => exact absurd trivial hr
  | _ => rfl

namespace Cluster

/-- What a host may be answered when others may do what it relies on them to do before the answer. -/
def Amid (rely : Cluster → Cluster → Prop) (host : String) (r : Site.Request) (c : Cluster)
    (x : r.Answer) (c' : Cluster) : Prop :=
  ∃ c₁, rely c c₁ ∧ Answers host c₁ r x c'

theorem owned_of_asks {rely : Cluster → Cluster → Prop} {host : String} {α : Type} {t : Task Site α}
    {c c' : Cluster} {x : α}
    (hrely : ∀ c c', rely c c' → (c'.member host).owned = (c.member host).owned)
    (ht : t.Asks fun r : Site.Request => ¬ r.IsOfBeliefs) (h : t.Ends (Amid rely host) c x c') :
    (c'.member host).owned = (c.member host).owned := by
  have hkeep : t.Assures (Amid rely host)
      (fun _ c' => (c'.member host).owned = (c.member host).owned) c := by
    refine ht.assures ?_ rfl
    rintro r c₁ y c₂ hr ⟨c₃, hc, hy⟩ hsame
    rw [hy.frame.owned, Site.Request.beliefs_of_not hr, hrely _ _ hc, hsame]
  exact Task.assures_iff.1 hkeep x c' h

end Cluster

/-- A cluster with what a host has asked of its surroundings there, the latest first. -/
structure Course where
  cluster : Cluster
  past : List (Exchange Host.Surroundings)

namespace Equipment

variable (e : Equipment) (rely : Cluster → Cluster → Prop)

/-- How a request of a host to its surroundings continues the course of that host. -/
def Continues (r : Host.Request) (s : Course) (x : r.Answer) (s' : Course) : Prop :=
  (e.serve r).Ends (Cluster.Amid rely e.me.owner) s.cluster x s'.cluster ∧ s'.past = ⟨r, x⟩ :: s.past

variable {e rely} {α : Type}

theorem Continues.mono {rely' : Cluster → Cluster → Prop} {r : Host.Request} {s s' : Course}
    {x : r.Answer} (h : e.Continues rely r s x s') (hrely : ∀ c c', rely c c' → rely' c c') :
    e.Continues rely' r s x s' :=
  ⟨h.1.mono fun _ _ _ _ ⟨c, hc, hx⟩ => ⟨c, hrely _ c hc, hx⟩, h.2⟩

theorem exists_course {t : Task Host.Surroundings α} {c c' : Cluster} {a : α}
    (h : (t.serve e.serve).Ends (Cluster.Amid rely e.me.owner) c a c')
    (past : List (Exchange Host.Surroundings)) :
    ∃ past', t.Ends (e.Continues rely) ⟨c, past⟩ a ⟨c', past'⟩ := by
  have hall : (t.serve e.serve).Assures (Cluster.Amid rely e.me.owner)
      (fun a c' => ∃ past', t.Ends (e.Continues rely) ⟨c, past⟩ a ⟨c', past'⟩) c := by
    rw [Task.assures_serve]
    clear h
    induction t generalizing c past with
    | done a => exact ⟨past, .done a _⟩
    | ask r resume ih =>
        intro x c₁ hx
        refine (ih x (⟨r, x⟩ :: past)).imp fun a c' ⟨past', hend⟩ => ⟨past', .ask ?_ hend⟩
        exact ⟨hx, rfl⟩
  exact Task.assures_iff.1 hall a c' h

/--
How a host makes one call after the other, from a course on. Others do what it relies on them to do, also
between its calls. The courses are those in which its calls ended, the latest first.
-/
inductive Career (e : Equipment) (rely : Cluster → Cluster → Prop) (init : Course) :
    Course → List Course → Prop where
  | start : Career e rely init init []
  | meanwhile {s : Course} {ends : List Course} {c : Cluster} (h : Career e rely init s ends)
      (hc : rely s.cluster c) : Career e rely init ⟨c, s.past⟩ ends
  | call {s s' : Course} {ends : List Course} {a : Action} {x : Except Error a.Reply}
      (h : Career e rely init s ends) (ha : a.IsOfHost)
      (hcall : (a.program e.me.owner).run.Ends (e.Continues rely) s x s') :
      Career e rely init s' (s' :: ends)

end Equipment

end PartitionHost
