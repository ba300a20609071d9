import PartitionHost.Proofs.Retry.Enquiry

/-!
# Questions to the management node of a cluster

The node of a host counts its questions and may be told to fail some of the next ones; how it takes them is told by
`ManagementNode.treatment`. What is read off a stopwatch of questions put to such a node is what its cluster does.
-/

namespace PartitionHost

namespace ManagementNode

def after (n : ManagementNode) (asked : Nat) : ManagementNode :=
  { n with asked := n.asked + asked, failures := n.failures - asked }

def treatment (n : ManagementNode) : Enquiry.Treatment := fun q asked =>
  ⟨n.latency, if asked < n.failures then .error n.failure else n.snapshot.answer q⟩

theorem takeQuestion_after (n : ManagementNode) (asked : Nat) :
    (n.after asked).takeQuestion = (if asked < n.failures then some n.failure else none, n.after (asked + 1)) := by
  simp only [takeQuestion, after, Nat.sub_pos_iff_lt]
  split
  · rfl
  · have hzero : n.failures - asked = n.failures - (asked + 1) := by omega
    rw [hzero]
    rfl

end ManagementNode

theorem Cluster.node_setNode (c : Cluster) (host : String) (n : ManagementNode) :
    ((c.setNode host n).member host).node = n := by
  simp [setNode, setMember, member]

namespace Routine

variable {α : Type} {host : String} {c : Cluster}

theorem run_sleep_eq (cancel : Cancellation) (due : Nat) (c : Cluster) :
    (sleep cancel due).run c = (some (Site.sleep cancel c.elapsed due).1,
      { c with elapsed := (Site.sleep cancel c.elapsed due).2 }) := by
  rw [run_sleep]
  simp only [Site.sleep]
  split
  · rfl
  · rw [Cluster.wakeAt, Nat.max_eq_right (Nat.le_max_right _ _)]

/-- What is done with a question when the wait for its answer ends; it may be made to fail. -/
def closeQuestion (host : String) (q : Enquiry) (failure : Option Error) :
    Wake → Routine (Option (Except Error q.Reply))
  | .cancelled => .done none
  | .due =>
    match failure with
    | some e => .done (some (.error e))
    | none => (read fun c => (c.member host).node.snapshot.answer q).bind fun answer => .done (some answer)

theorem enquire_run {cancel : Cancellation} (hfired : cancel.fired c.elapsed = false) (q : Enquiry)
    {failure : Option Error} {node : ManagementNode} (htake : (c.member host).node.takeQuestion = (failure, node)) :
    (enquire host cancel q).run c =
      ((sleep cancel (c.elapsed + node.latency)).bind (closeQuestion host q failure)).run (c.setNode host node) := by
  have hopen : (enquire host cancel q).run c = (if cancel.fired c.elapsed then .done none else
      act (fun c => c.setNode host (c.member host).node.takeQuestion.2) fun c =>
        (read fun c => c.elapsed + (c.member host).node.latency).bind fun due =>
          (sleep cancel due).bind (closeQuestion host q (c.member host).node.takeQuestion.1)).run c := rfl
  rw [hopen, hfired]
  change ((sleep cancel (c.elapsed + ((c.setNode host _).member host).node.latency)).bind _).run
    (c.setNode host (c.member host).node.takeQuestion.2) = _
  rw [Cluster.node_setNode, htake]

theorem closeQuestion_run (q : Enquiry) {node : ManagementNode} {asked : Nat}
    (hnode : (c.member host).node = node.after (asked + 1)) (wake : Wake) :
    (closeQuestion host q (if asked < node.failures then some node.failure else none) wake).run c =
      (some (wake.answer? (node.treatment q asked).outcome), c) := by
  cases wake with
  | cancelled => rfl
  | due =>
      dsimp only [closeQuestion, ManagementNode.treatment, Wake.answer?]
      by_cases hlt : asked < node.failures
      · rw [if_pos hlt, if_pos hlt]
        rfl
      · have hanswer : (c.member host).node.snapshot.answer q = node.snapshot.answer q := by
          rw [hnode]
          rfl
        rw [if_neg hlt, if_neg hlt, ← hanswer]
        rfl

theorem run_enquire {node : ManagementNode} {asked : Nat} {cancel : Cancellation}
    (hnode : (c.member host).node = node.after asked) (hfired : cancel.fired c.elapsed = false) (q : Enquiry) :
    (enquire host cancel q).run c =
      let (wake, later) := Site.sleep cancel c.elapsed (c.elapsed + (node.treatment q asked).takes)
      (some (wake.answer? (node.treatment q asked).outcome),
        { c.setNode host (node.after (asked + 1)) with elapsed := later }) := by
  have htake := node.takeQuestion_after asked
  rw [← hnode] at htake
  rw [enquire_run hfired q htake, run_bind_of_eq (run_sleep_eq _ _ _)]
  let c₁ := { c.setNode host (node.after (asked + 1)) with
    elapsed := (Site.sleep cancel c.elapsed (c.elapsed + node.latency)).2 }
  have hnode₁ : (c₁.member host).node = node.after (asked + 1) := c.node_setNode host _
  exact closeQuestion_run q hnode₁ _

theorem run_of_time {node : ManagementNode} {t : Task Site α} {asked : Nat} {r : Stopwatch.Reading α}
    (hnode : (c.member host).node = node.after asked) (h : Site.time node.treatment asked c.elapsed t = some r) :
    ∃ c', (ofSite host t).run c = (some r.value, c') ∧ c'.elapsed = r.elapsed ∧
      (c'.member host).node = node.after (asked + r.marks.length) := by
  induction t generalizing asked c r with
  | done a =>
      cases h
      exact ⟨c, rfl, rfl, hnode⟩
  | ask request resume ih =>
      cases request with
      | elapsed => exact ih _ hnode h
      | wait cancel due =>
          let c₁ := { c with elapsed := (Site.sleep cancel c.elapsed (millisAfter due)).2 }
          obtain ⟨c', hrun, hrest⟩ := ih _ (c := c₁) hnode h
          exact ⟨c', (run_bind_of_eq (run_sleep_eq cancel _ c) _).trans hrun, hrest⟩
      | enquire cancel q =>
          cases hfired : cancel.fired c.elapsed with
          | true =>
              rw [Site.time, hfired] at h
              cases h
          | false =>
              have henquire := run_enquire hnode hfired q
              rw [Site.time, hfired] at h
              cases hsleep : Site.sleep cancel c.elapsed (c.elapsed + (node.treatment q asked).takes) with
              | mk wake later =>
                  rw [hsleep] at h henquire
                  let c₁ := { c.setNode host (node.after (asked + 1)) with elapsed := later }
                  obtain ⟨r', hrest, rfl⟩ := Option.map_eq_some_iff.mp h
                  obtain ⟨c', hrun, helapsed, hnode'⟩ := ih _ (c := c₁) (c.node_setNode host _) hrest
                  refine ⟨c', (run_bind_of_eq henquire _).trans hrun, helapsed,
                    hnode'.trans (congrArg node.after ?_)⟩
                  simp only [Stopwatch.Reading.after, List.length_append, List.length_singleton]
                  omega
      | _ => cases h

/-- A host of a cluster that puts a question comes to what the retry of its node's attempts comes to. -/
theorem run_site_enquire (host : String) (hc : c.elapsed = 0) (patience : Enquiry.Patience)
    (cancel : Cancellation) (q : Enquiry) :
    let node := (c.member host).node
    let r := Attempt.retry (node.treatment q) Enquiry.isRetryable
      (Retry.fixedDelays patience.interval patience.retries) cancel
    ∃ c', (ofSite host (Site.enquire patience cancel q)).run c = (some (r.value.getD (.error .cancelled)), c') ∧
      c'.elapsed = r.elapsed ∧
      (c'.member host).node = node.after (if cancel.fired 0 then 0 else r.marks.length) := by
  intro node r
  have htime : Site.time node.treatment 0 c.elapsed (Site.enquire patience cancel q) =
      some ⟨r.value.getD (.error .cancelled), r.elapsed, if cancel.fired 0 then [] else r.marks⟩ := by
    rw [hc]
    exact Site.time_enquire patience cancel q
  have hnode : (c.member host).node = node.after 0 := rfl
  obtain ⟨c', hrun, helapsed, hnode'⟩ := run_of_time hnode htime
  refine ⟨c', hrun, helapsed, hnode'.trans (congrArg node.after ?_)⟩
  rw [Nat.zero_add]
  exact apply_ite List.length _ _ _

end Routine

end PartitionHost
