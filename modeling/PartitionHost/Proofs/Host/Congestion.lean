import PartitionHost.Proofs.Host.Requests
import PartitionHost.Proofs.Interleaving.Runtime
import PartitionHost.Proofs.Interleaving.Schedule
import PartitionHost.Proofs.Table

/-!
# Congestion: a consumer that takes nothing

A host that shuts down announces each loss before it gives back the next lease. While its consumer takes
nothing out of the mailbox, it comes as far as there is room, and one partition further: these leases are
given back, and it waits for ever with the others (`Equipment.released_of_shutdown`).
-/

namespace PartitionHost

/-! ## Room in a mailbox -/

namespace Mailbox

variable {m : Mailbox} {e : Host.Event}

/-- How many events find room, if none is taken out. -/
def room (m : Mailbox) : Nat := m.capacity - (m.events.length + m.waiting.length)

theorem post_of_room (hattended : m.attended = true) (h : m.room ≠ 0) :
    m.post e = (none, { m with events := m.events ++ [e] }) := by
  have hroom : m.hasRoom m.waiting.length = true := by
    simp only [room] at h
    simp only [hasRoom, hattended, Bool.not_true, Bool.false_or, decide_eq_true_eq]
    omega
  rw [post, if_pos hroom, put, if_pos hattended]

theorem room_append : ({ m with events := m.events ++ [e] } : Mailbox).room = m.room - 1 := by
  simp only [room, List.length_append, List.length_singleton]
  omega

/-- Who finds a mailbox full waits for a turn that does not come by itself. -/
theorem post_of_full (hattended : m.attended = true) (hticket : m.nextTicket ∉ m.waiting)
    (h : m.room = 0) : (m.post e).1 = some m.nextTicket ∧ (m.post e).2.isTurn m.nextTicket = false := by
  have hroom : m.hasRoom m.waiting.length = false := by
    simp only [room] at h
    simp only [hasRoom, hattended, Bool.not_true, Bool.false_or, decide_eq_false_iff_not]
    omega
  have hbefore : (m.waiting ++ [m.nextTicket]).takeWhile (· != m.nextTicket) = m.waiting := by
    rw [List.takeWhile_append_of_pos fun t ht => ?_]
    · simp
    · exact bne_iff_ne.2 fun heq => hticket (heq ▸ ht)
  rw [post, if_neg (by rw [hroom]; nofun)]
  refine ⟨rfl, ?_⟩
  rw [isTurn, hbefore]
  exact hroom

end Mailbox

theorem Cluster.mailbox_setMailbox (c : Cluster) (host : String) (m : Mailbox) :
    ((c.setMailbox host m).member host).mailbox = m := by
  simp [setMailbox, setMember, member]

namespace Routine

variable {host : String} {c : Cluster} {e : Host.Event} {α : Type}

theorem run_announce (host : String) (e : Host.Event) (c : Cluster) :
    (announce host e).run c =
      (match ((c.member host).mailbox.post e).1 with
        | none => .done ()
        | some ticket => .wait
          { due := fun c => if (c.member host).mailbox.isTurn ticket then some c.elapsed else none
            abandon := fun c => c.setMailbox host ((c.member host).mailbox.handBack ticket) }
          (change fun c => c.setMailbox host (((c.member host).mailbox.handBack ticket).put e)) :
        Routine Unit).run (c.setMailbox host ((c.member host).mailbox.post e).2) := rfl

theorem run_announce_of_room (hattended : (c.member host).mailbox.attended = true)
    (h : (c.member host).mailbox.room ≠ 0) :
    (announce host e).run c = (some (), c.setMailbox host
      { (c.member host).mailbox with events := (c.member host).mailbox.events ++ [e] }) := by
  rw [run_announce, Mailbox.post_of_room hattended h]
  rfl

theorem run_announce_of_full (hattended : (c.member host).mailbox.attended = true)
    (hticket : (c.member host).mailbox.nextTicket ∉ (c.member host).mailbox.waiting)
    (h : (c.member host).mailbox.room = 0) : ((announce host e).run c).1 = none := by
  obtain ⟨hrefused, hturn⟩ := Mailbox.post_of_full (e := e) hattended hticket h
  rw [run_announce, hrefused]
  simp only [run, Cluster.mailbox_setMailbox, hturn]
  rfl

end Routine

/-! ## Requests that leave the hosts alone -/

/-- Whether a request is made of a store or a clock, or is a note. -/
def Site.Request.IsOfStores : Site.Request → Prop
  | .own _ _ | .disown _ | .announce _ | .enquire _ _ => False
  | _ => True

namespace Routine

variable {host : String} {c : Cluster} {α : Type}

theorem exists_run_call_members (store : StoreName) (cancel : Cancellation) (call : Bucket.Call)
    (c : Cluster) : ∃ x c', (callResult <$> Routine.call store cancel call).run c = (some x, c') ∧
      c'.members = c.members := by
  obtain ⟨wake, moment, hsleep, -⟩ := exists_run_sleep cancel (c.elapsed + c.latency store call) c
  obtain ⟨next, hrun, hcancelled, hdue⟩ :
      ∃ next : Wake → Routine (Option (Except Bucket.Failure call.Reply)),
        (Routine.call store cancel call).run c =
          ((sleep cancel (c.elapsed + c.latency store call)).bind next).run c ∧
        next .cancelled = .done none ∧ next .due = some <$> update (·.call store call) :=
    ⟨_, rfl, rfl, rfl⟩
  rw [run_bind_of_eq hsleep] at hrun
  cases wake with
  | cancelled =>
      rw [hcancelled] at hrun
      exact ⟨_, _, run_bind_of_eq hrun _, rfl⟩
  | due =>
      rw [hdue] at hrun
      exact ⟨_, _, run_bind_of_eq hrun _, by cases store <;> rfl⟩

theorem exists_run_answer (host : String) {r : Site.Request} (hr : r.IsOfStores) (c : Cluster) :
    ∃ x c', (answer host r).run c = (some x, c') ∧ c'.members = c.members := by
  cases r with
  | leaseBucket cancel call => exact exists_run_call_members .leases cancel call c
  | checkpointBucket cancel call => exact exists_run_call_members .checkpoints cancel call c
  | wait cancel due =>
      obtain ⟨wake, moment, hsleep, -⟩ := exists_run_sleep cancel (millisAfter due) c
      exact ⟨wake, _, hsleep, rfl⟩
  | own | disown | announce | enquire => exact hr.elim
  | _ => exact ⟨_, _, rfl, rfl⟩

theorem ofSite_bind {β : Type} (host : String) (t : Task Site α) (f : α → Task Site β) :
    ofSite host (t.bind f) = (ofSite host t).bind fun a => ofSite host (f a) := by
  induction t with
  | done a => rfl
  | ask r resume ih =>
      have hstep : ofSite host ((Task.ask r resume).bind f) =
          (answer host r).bind fun x => ofSite host ((resume x).bind f) := rfl
      rw [hstep, funext ih, ← bind_assoc]
      rfl

theorem exists_run_of_asks (host : String) {t : Task Site α} (ht : t.Asks Site.Request.IsOfStores)
    (c : Cluster) :
    ∃ a c', (ofSite host t).run c = (some a, c') ∧ c'.members = c.members := by
  induction t generalizing c with
  | done a => exact ⟨a, c, rfl, rfl⟩
  | ask r resume ih =>
      obtain ⟨x, c₁, hx, hsame⟩ := exists_run_answer host ht.1 c
      obtain ⟨a, c', hrest, hsame'⟩ := ih x (ht.2 x) c₁
      exact ⟨a, c', (run_bind_of_eq hx _).trans hrest, hsame'.trans hsame⟩

end Routine

/-! ## Programs that may wait for ever -/

namespace Equipment

open Host (Surroundings)

variable {e : Equipment} {c c' : Cluster} {α : Type}

/--
What a task asks of its surroundings until it is done or waits for ever, and what it comes to if it is
done.
-/
def attempt {α : Type} (e : Equipment) : Task Surroundings α → Cluster → List Host.Request × Option α
  | .done a, _ => ([], some a)
  | .ask r resume, c =>
    match (Routine.ofSite e.me.owner (e.serve r)).run c with
    | (some x, c') => let (asked, a) := e.attempt (resume x) c'; (r :: asked, a)
    | (none, _) => ([r], none)

theorem attempt_ask {r : Host.Request} {x : r.Answer} {resume : r.Answer → Task Surroundings α}
    (h : (Routine.ofSite e.me.owner (e.serve r)).run c = (some x, c')) :
    e.attempt (.ask r resume) c = (r :: (e.attempt (resume x) c').1, (e.attempt (resume x) c').2) := by
  rw [attempt, h]

theorem attempt_ask_of_none {r : Host.Request} {resume : r.Answer → Task Surroundings α}
    (h : ((Routine.ofSite e.me.owner (e.serve r)).run c).1 = none) :
    e.attempt (.ask r resume) c = ([r], none) := by
  rw [attempt]
  split
  · rename_i x c' hrun
    rw [hrun] at h
    cases h
  · rfl

theorem attempt_snd (e : Equipment) (t : Task Surroundings α) (c : Cluster) :
    (e.attempt t c).2 = ((Routine.ofSite e.me.owner (t.serve e.serve)).run c).1 := by
  induction t generalizing c with
  | done a => rfl
  | ask r resume ih =>
      rw [Task.serve, Routine.ofSite_bind, Routine.run_bind, attempt]
      split
      · rename_i x c' hrun
        rw [hrun]
        exact ih x c'
      · rename_i c' hrun
        rw [hrun]

/-! ## Giving back without being heard -/

def released? : Host.Request → Option String
  | .lease _ (.release p) => some p
  | _ => none

variable {p : String} {ps : List String}

theorem releaseAll_cons (p : String) (ps : List String) : (Host.releaseAll (p :: ps)).run =
    .ask (I := Surroundings) (.lease .never (.release p)) fun _ => .ask (.disown p) fun held =>
      if held then .ask (.announce (.lost p)) fun _ => (Host.releaseAll ps).run
      else (Host.releaseAll ps).run := by
  change Task.ask (I := Surroundings) (.lease .never (.release p)) _ = _
  congr 1
  funext _
  change Task.ask (I := Surroundings) (.disown p) _ = _
  congr 1
  funext held
  cases held <;> rfl

theorem member_disown (c : Cluster) (host p : String) :
    ((c.disown host p).2.member host).owned = (c.member host).owned.erase p ∧
      ((c.disown host p).2.member host).mailbox = (c.member host).mailbox := by
  simp [Cluster.disown, Cluster.setMember, Cluster.member]

theorem attempt_releaseAll_cons (ps : List String)
    (hp : (c.member e.me.owner).owned.contains p = true)
    (hattended : (c.member e.me.owner).mailbox.attended = true)
    (hticket : (c.member e.me.owner).mailbox.nextTicket ∉ (c.member e.me.owner).mailbox.waiting) :
    if (c.member e.me.owner).mailbox.room = 0 then
      e.attempt (Host.releaseAll (p :: ps)).run c =
        ([.lease .never (.release p), .disown p, .announce (.lost p)], none)
    else ∃ c',
      e.attempt (Host.releaseAll (p :: ps)).run c =
        (.lease .never (.release p) :: .disown p :: .announce (.lost p) ::
          (e.attempt (Host.releaseAll ps).run c').1, (e.attempt (Host.releaseAll ps).run c').2) ∧
      (c'.member e.me.owner).owned = (c.member e.me.owner).owned.erase p ∧
      (c'.member e.me.owner).mailbox = { (c.member e.me.owner).mailbox with
        events := (c.member e.me.owner).mailbox.events ++ [.lost p] } := by
  have hstores : (e.serve (.lease .never (.release p))).Asks Site.Request.IsOfStores :=
    e.asks_of_lease .never (.release p) trivial (fun _ => trivial) trivial fun _ => trivial
  obtain ⟨x, c₁, hrelease, hmembers⟩ :=
    Routine.exists_run_of_asks e.me.owner hstores c
  have hmember : c₁.member e.me.owner = c.member e.me.owner := by
    rw [Cluster.member, hmembers, Cluster.member]
  have hdisown : (Routine.ofSite e.me.owner (e.serve (.disown p))).run c₁ =
      (some true, (c₁.disown e.me.owner p).2) := by
    rw [← hp, ← hmember]
    rfl
  obtain ⟨howned, hmailbox⟩ := member_disown c₁ e.me.owner p
  rw [hmember] at howned hmailbox
  rw [releaseAll_cons, attempt_ask hrelease, attempt_ask hdisown]
  simp only [if_true]
  have hserve : (Routine.ofSite e.me.owner (e.serve (.announce (.lost p)))) =
      Routine.announce e.me.owner (.lost p) := Routine.bind_done _
  rw [← hmailbox] at hattended hticket ⊢
  split
  · rename_i hfull
    rw [attempt_ask_of_none]
    rw [hserve]
    exact Routine.run_announce_of_full hattended hticket hfull
  · rename_i hroom
    have hannounce := Routine.run_announce_of_room (e := .lost p) hattended hroom
    rw [← hserve] at hannounce
    rw [attempt_ask hannounce]
    refine ⟨_, rfl, ?_, Cluster.mailbox_setMailbox _ _ _⟩
    rw [← howned]
    simp [Cluster.setMailbox, Cluster.setMember, Cluster.member]

/-- One partition after the other is given back while there is room, and one more. -/
theorem attempt_releaseAll (hps : ps.Nodup)
    (howned : ∀ p ∈ ps, (c.member e.me.owner).owned.contains p = true)
    (hattended : (c.member e.me.owner).mailbox.attended = true)
    (hticket : (c.member e.me.owner).mailbox.nextTicket ∉ (c.member e.me.owner).mailbox.waiting) :
    (e.attempt (Host.releaseAll ps).run c).1.filterMap released? =
        ps.take ((c.member e.me.owner).mailbox.room + 1) ∧
      (e.attempt (Host.releaseAll ps).run c).2 =
        if ps.length ≤ (c.member e.me.owner).mailbox.room then some (.ok ()) else none := by
  induction ps generalizing c with
  | nil => exact ⟨rfl, rfl⟩
  | cons p ps ih =>
      obtain ⟨hp, hps⟩ := List.nodup_cons.1 hps
      have hstep := attempt_releaseAll_cons ps (howned p List.mem_cons_self) hattended hticket
      split at hstep
      · rename_i hfull
        rw [hstep, hfull]
        exact ⟨rfl, rfl⟩
      · rename_i hroom
        obtain ⟨c', hattempt, howned', hmailbox⟩ := hstep
        have hroom' : (c'.member e.me.owner).mailbox.room = (c.member e.me.owner).mailbox.room - 1 := by
          rw [hmailbox]
          exact Mailbox.room_append
        obtain ⟨hreleased, hanswer⟩ := ih (c := c') hps
          (fun q hq => by
            rw [howned', Table.contains_erase]
            exact ⟨fun heq => hp (heq ▸ hq), howned q (List.mem_cons_of_mem p hq)⟩)
          (by rw [hmailbox]; exact hattended) (by rw [hmailbox]; exact hticket)
        rw [hroom'] at hreleased hanswer
        rw [hattempt, hanswer]
        constructor
        · simp only [List.filterMap_cons, released?, hreleased]
          rw [List.take_succ_cons]
          congr 2
          omega
        · rw [List.length_cons]
          congr 1
          apply propext
          omega

/--
Shutdown of a host whose consumer is there and takes nothing out of the mailbox: whatever the stores answer, the
leases that it gives back are the first ones of those it believes in, one more than there is room for losses,
and it comes to an end exactly if there is room for all.
-/
theorem released_of_shutdown (e : Equipment) (c : Cluster) {m : Mailbox}
    (hm : (c.member e.me.owner).mailbox = m) (hattended : m.attended = true)
    (hticket : m.nextTicket ∉ m.waiting) :
    let owned := (c.member e.me.owner).owned.names
    (e.attempt Host.shutdown.run c).1.filterMap released? = owned.take (m.room + 1) ∧
      ((Routine.ofSite e.me.owner (e.run Host.shutdown)).run c).1 =
        if owned.length ≤ m.room then some (.ok ()) else none := by
  intro owned
  subst hm
  obtain ⟨hreleased, hanswer⟩ := attempt_releaseAll (e := e) (c := c) (Table.nodup_names _)
    (fun p hp => Table.mem_names_iff_contains.1 hp) hattended hticket
  have hattempt : e.attempt Host.shutdown.run c = (.owned :: (e.attempt (Host.releaseAll owned).run c).1,
      (e.attempt (Host.releaseAll owned).run c).2) := rfl
  have hrun : ((Routine.ofSite e.me.owner (e.run Host.shutdown)).run c).1 =
      (e.attempt Host.shutdown.run c).2 := (attempt_snd e _ c).symm
  rw [hrun, hattempt]
  exact ⟨hreleased, hanswer⟩

end Equipment

/-! ## A consumer that does not read -/

/-- Nothing is set up, and the mailbox of host a has room for three events. -/
def Cluster.ofSmallMailbox : Cluster where
  members := .ofList [("a", {
    mailbox := .ofBuffer 3, node := { snapshot := .ofPartitions "orders" ["0", "1", "2"] .epoch } })]

/-- Host a has taken three partitions, and nobody has read of it. -/
def Cluster.unread : Cluster :=
  let e : Equipment := Fleet.pair .register false
  let routine := Routine.ofSite "a" do
    let _ ← e.run (Host.bootstrap "a" .startOfStream .never)
    e.run (Host.acquireUpTo 3 .never ["0", "1", "2"])
  (routine.run .ofSmallMailbox).2

namespace Equipment

/-- The lease of partition 1 is never given back. -/
theorem not_all_released_unread : (Cluster.unread.member "a").mailbox.attended = true ∧
    (Cluster.unread.member "a").mailbox.waiting = [] ∧
    ¬ ∀ p ∈ (Cluster.unread.member "a").owned.names,
      p ∈ ((Fleet.pair .register false).attempt Host.shutdown.run Cluster.unread).1.filterMap released? := by
  decide +kernel

theorem released_of_shutdown_unread : (Cluster.unread.member "a").owned.names = ["0", "1", "2"] ∧
    ((Fleet.pair .register false).attempt Host.shutdown.run Cluster.unread).1.filterMap released? = ["0"] ∧
    ((Routine.ofSite "a" ((Fleet.pair .register false).run Host.shutdown)).run Cluster.unread).1 = none := by
  have hmailbox : (Cluster.unread.member "a").mailbox.attended = true ∧
      (Cluster.unread.member "a").mailbox.waiting = [] ∧ (Cluster.unread.member "a").mailbox.room = 0 := by
    decide +kernel
  have howned : (Cluster.unread.member "a").owned.names = ["0", "1", "2"] := by decide +kernel
  obtain ⟨hattended, hwaiting, hroom⟩ := hmailbox
  have hname : (Fleet.pair .register false).me.owner = "a" := rfl
  obtain ⟨hreleased, hanswer⟩ := released_of_shutdown (Fleet.pair .register false) Cluster.unread rfl
    hattended (fun h => by
      rw [hname, hwaiting] at h
      cases h)
  rw [hname, howned, hroom] at hreleased hanswer
  exact ⟨howned, hreleased, hanswer⟩

end Equipment

end PartitionHost
