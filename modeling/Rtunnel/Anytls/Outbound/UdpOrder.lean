import Rtunnel.Anytls.Outbound.UdpSession

namespace Rtunnel.Anytls.Outbound

open Rtunnel.Data

/-! The order of a client's datagrams.

Whoever holds a UDP session waits for one `send_to` before it calls the next.
Then at most one call is under way, and it holds the latest stream of its target.
So the datagrams for a target stand in the order of their calls, within each of
its streams and from one stream to the next.
-/

def SendStage.Returned : SendStage → Prop
  | .returnedOk _ => True
  | .returnedErr _ _ => True
  | _ => False

instance (stage : SendStage) : Decidable stage.Returned :=
  match stage with
  | .returnedOk _ => .isTrue trivial
  | .returnedErr _ _ => .isTrue trivial
  | .acquiring _ => .isFalse id
  | .holding _ _ => .isFalse id
  | .waiting _ _ => .isFalse id
  | .removing _ => .isFalse id

namespace UdpSession

/-- A call starts only after all earlier ones have returned. -/
def Sequential (session : UdpSession) : UdpSessionEvent → Prop
  | .sendTo _ _ => ∀ call ∈ session.calls, call.stage.Returned
  | _ => True

instance (session : UdpSession) (event : UdpSessionEvent) : Decidable (session.Sequential event) :=
  match event with
  | .sendTo _ _ => inferInstanceAs (Decidable (∀ call ∈ session.calls, call.stage.Returned))
  | .advance _ _ => .isTrue trivial
  | .recv _ _ => .isTrue trivial
  | .respond _ _ => .isTrue trivial
  | .taskEnds _ => .isTrue trivial
  | .cleanup _ => .isTrue trivial

structure Orderly (session : UdpSession) : Prop where
  single : ∀ (index : Nat) (call : SendCall), session.calls[index]? = some call →
    ¬ call.stage.Returned → index + 1 = session.calls.length
  latest : ∀ target index, session.streams.lookup target = some index →
    ∀ (other : Nat) (stream : UdpStream), session.spawned[other]? = some stream →
      stream.target = target → other ≤ index
  held : ∀ (index : Nat) (call : SendCall), session.calls[index]? = some call →
    ∀ place, call.stage.holds place = true →
      ∀ (other : Nat) (stream : UdpStream), session.spawned[other]? = some stream →
        stream.target = call.target → other ≤ place
  within : ∀ (index : Nat) (stream : UdpStream), session.spawned[index]? = some stream →
    stream.mailbox.accepted.Pairwise (· < ·)
  across : ∀ (first second : Nat) (earlier later : UdpStream),
    session.spawned[first]? = some earlier → session.spawned[second]? = some later →
    earlier.target = later.target → first < second →
    ∀ sooner ∈ earlier.mailbox.accepted, ∀ after ∈ later.mailbox.accepted, sooner < after

namespace Orderly

variable {session : UdpSession}

theorem new : UdpSession.new.Orderly where
  single := fun _ _ found => nomatch found
  latest := fun _ _ mapped => nomatch mapped
  held := fun _ _ found => nomatch found
  within := fun _ _ found => nomatch found
  across := fun _ _ _ _ found => nomatch found

theorem not_returned_of_holds {stage : SendStage} {place : Nat}
    (holds : stage.holds place = true) : ¬ stage.Returned := by
  cases stage <;> simp_all [SendStage.holds, SendStage.Returned]

/-- A step that leaves the calls and what was accepted alone. -/
theorem react (orderly : session.Orderly) (after : UdpSession)
    (calls : after.calls = session.calls)
    (streams : ∀ target index, after.streams.lookup target = some index →
      session.streams.lookup target = some index)
    (spawned : ∀ (index : Nat) (later : UdpStream), after.spawned[index]? = some later →
      ∃ stream, session.spawned[index]? = some stream ∧ stream.target = later.target ∧
        stream.mailbox.accepted = later.mailbox.accepted) : after.Orderly := by
  constructor
  case single => exact calls ▸ orderly.single
  case latest =>
      intro target index mapped other later listed own
      obtain ⟨stream, known, same, -⟩ := spawned other later listed
      exact orderly.latest target index (streams target index mapped) other stream known
        (same.trans own)
  case held =>
      intro index call found place holds other later listed own
      obtain ⟨stream, known, same, -⟩ := spawned other later listed
      exact orderly.held index call (calls ▸ found) place holds other stream known
        (same.trans own)
  case within =>
      intro index later listed
      obtain ⟨stream, known, -, same⟩ := spawned index later listed
      exact same ▸ orderly.within index stream known
  case across =>
      intro first second earlier later listedFirst listedSecond sameTarget before
      obtain ⟨one, knownOne, ownOne, acceptedOne⟩ := spawned first earlier listedFirst
      obtain ⟨two, knownTwo, ownTwo, acceptedTwo⟩ := spawned second later listedSecond
      rw [← acceptedOne, ← acceptedTwo]
      exact orderly.across first second one two knownOne knownTwo
        (ownOne.trans (sameTarget.trans ownTwo.symm)) before

theorem putStream (orderly : session.Orderly) {index : Nat} {stream changed : UdpStream}
    (found : session.spawned[index]? = some stream) (sameTarget : changed.target = stream.target)
    (accepted : changed.mailbox.accepted = stream.mailbox.accepted) :
    (session.putStream index changed).Orderly := by
  apply orderly.react (session.putStream index changed) rfl (fun _ _ => id)
  intro other later listed
  rcases putStream_cases listed with ⟨rfl, rfl⟩ | ⟨-, before⟩
  · exact ⟨stream, found, sameTarget.symm, accepted.symm⟩
  · exact ⟨later, before, rfl, rfl⟩

theorem fewer (orderly : session.Orderly) {streams : KeyedMap TargetAddr Nat}
    (sub : ∀ target index, streams.lookup target = some index →
      session.streams.lookup target = some index) : { session with streams := streams }.Orderly :=
  orderly.react { session with streams := streams } rfl sub
    fun _ later listed => ⟨later, listed, rfl, rfl⟩

theorem evictIdleUdpStreams (orderly : session.Orderly) (now : Nat) :
    (session.evictIdleUdpStreams now).Orderly := by
  apply orderly.fewer
  intro target index mapped
  rw [KeyedMap.lookup_retain, Option.filter_eq_some_iff] at mapped
  exact mapped.1

theorem sendTo (orderly : session.Orderly) (idle : ∀ call ∈ session.calls, call.stage.Returned)
    (target : TargetAddr) (payload : List UInt8) :
    (session.step (.sendTo target payload)).Orderly := by
  have listed : ∀ (index : Nat) (call : SendCall),
      (session.step (.sendTo target payload)).calls[index]? = some call →
      call.stage.Returned ∨ index = session.calls.length ∧ call.stage = .acquiring none := by
    intro index call known
    by_cases before : index < session.calls.length
    · have found := (List.getElem?_append_left before).symm.trans known
      exact .inl (idle call (List.mem_of_getElem? found))
    · have tail := (List.getElem?_append_right (Nat.le_of_not_lt before)).symm.trans known
      have within := (List.getElem?_eq_some_iff.mp known).1
      simp only [step, List.length_append, List.length_singleton] at within
      rw [List.mem_singleton.mp (List.mem_of_getElem? tail)]
      exact .inr ⟨by omega, rfl⟩
  constructor
  case single =>
      intro index call known active
      obtain ⟨last, -⟩ := (listed index call known).resolve_left active
      simp [step, last]
  case latest => exact orderly.latest
  case held =>
      intro index call known place holds
      obtain ⟨-, stage⟩ := (listed index call known).resolve_left (not_returned_of_holds holds)
      rw [stage] at holds
      cases holds
  case within => exact orderly.within
  case across => exact orderly.across

/-- The call under way goes on, and holds only the latest stream of its target. -/
theorem setStage (orderly : session.Orderly) {index : Nat} {call : SendCall}
    (found : session.calls[index]? = some call) (active : ¬ call.stage.Returned)
    (stage : SendStage)
    (held : ∀ place, stage.holds place = true →
      ∀ (other : Nat) (stream : UdpStream), session.spawned[other]? = some stream →
        stream.target = call.target → other ≤ place) :
    (session.setStage index call stage).Orderly := by
  have length : (session.setStage index call stage).calls.length = session.calls.length := by
    simp [UdpSession.setStage]
  constructor
  case single =>
      intro other another known goesOn
      rw [length]
      rcases Sound.setStage_cases found known with ⟨rfl, -⟩ | ⟨-, before⟩
      · exact orderly.single other call found active
      · exact orderly.single other another before goesOn
  case latest => exact orderly.latest
  case held =>
      intro other another known place holds
      rcases Sound.setStage_cases found known with ⟨rfl, rfl⟩ | ⟨-, before⟩
      · exact held place holds
      · exact orderly.held other another before place holds
  case within => exact orderly.within
  case across => exact orderly.across

theorem spawnUotStream (orderly : session.Orderly) {target : TargetAddr}
    (idle : ∀ (index : Nat) (call : SendCall), session.calls[index]? = some call →
      ∀ place, call.stage.holds place = false) (now : Nat) :
    (session.spawnUotStream target now).Orderly := by
  have listed : ∀ (index : Nat) (later : UdpStream),
      (session.spawnUotStream target now).spawned[index]? = some later →
      session.spawned[index]? = some later ∨
        index = session.spawned.length ∧ later.target = target ∧ later.mailbox.accepted = [] := by
    intro index later known
    rcases Sound.spawnUotStream_cases known with before | ⟨last, rfl⟩
    · exact .inl before
    · exact .inr ⟨last, rfl, rfl⟩
  have bound : ∀ (index : Nat) (later : UdpStream),
      (session.spawnUotStream target now).spawned[index]? = some later →
      index ≤ session.spawned.length := by
    intro index later known
    rcases listed index later known with before | ⟨last, -⟩
    · exact Nat.le_of_lt (List.getElem?_eq_some_iff.mp before).1
    · exact Nat.le_of_eq last
  constructor
  case single => exact orderly.single
  case latest =>
      intro other index mapped place stream known own
      by_cases same : other = target
      · subst same
        have last := (AList.lookup_insert session.streams).symm.trans mapped
        rw [Option.some.injEq] at last
        exact last ▸ bound place stream known
      · have before := (AList.lookup_insert_ne same).symm.trans mapped
        rcases listed place stream known with old | ⟨-, fresh, -⟩
        · exact orderly.latest other index before place stream old own
        · exact absurd (own.symm.trans fresh) same
  case held =>
      intro index call found place holds
      rw [idle index call found place] at holds
      cases holds
  case within =>
      intro index stream known
      rcases listed index stream known with old | ⟨-, -, empty⟩
      · exact orderly.within index stream old
      · rw [empty]
        exact List.Pairwise.nil
  case across =>
      intro first second earlier later knownFirst knownSecond sameTarget before
      rcases listed second later knownSecond with old | ⟨-, -, empty⟩
      · rcases listed first earlier knownFirst with older | ⟨last, -⟩
        · exact orderly.across first second earlier later older old sameTarget before
        · have within := (List.getElem?_eq_some_iff.mp old).1
          omega
      · intro sooner _ accepted member
        rw [empty] at member
        cases member

/-- The call under way is let in: its number is above all that were accepted, and
no stream of its target comes after the one that takes it. -/
theorem letIn (orderly : session.Orderly) (sound : session.Sound) {index : Nat} {call : SendCall}
    (found : session.calls[index]? = some call) {earlier : Option Nat} {stream : Nat}
    (waits : call.stage = .waiting earlier stream) {outlet : UdpStream}
    (known : session.spawned[stream]? = some outlet) (own : outlet.target = call.target)
    {mailbox : Mailbox Nat} (accepted : mailbox.accepted = outlet.mailbox.accepted ++ [index]) :
    (session.putStream stream { outlet with mailbox := mailbox }).Orderly := by
  have active : ¬ call.stage.Returned := by simp [waits, SendStage.Returned]
  have last := orderly.single index call found active
  have smaller : ∀ (place : Nat) (other : UdpStream), session.spawned[place]? = some other →
      ∀ sooner ∈ other.mailbox.accepted, sooner < index := by
    intro place other listed sooner member
    obtain ⟨another, listedCall, returned⟩ := sound.accepted place other listed sooner member
    have within := (List.getElem?_eq_some_iff.mp listedCall).1
    have different : sooner ≠ index := by
      rintro rfl
      rw [found] at listedCall
      cases listedCall
      rw [waits] at returned
      cases returned
    omega
  have holds : call.stage.holds stream = true := by simp [waits, SendStage.holds]
  have greatest := orderly.held index call found stream holds
  have target : ∀ (place : Nat) (later : UdpStream),
      (session.putStream stream { outlet with mailbox := mailbox }).spawned[place]? = some later →
      ∃ before, session.spawned[place]? = some before ∧ before.target = later.target := by
    intro place later now
    rcases putStream_cases now with ⟨rfl, rfl⟩ | ⟨-, before⟩
    · exact ⟨outlet, known, rfl⟩
    · exact ⟨later, before, rfl⟩
  constructor
  case single => exact orderly.single
  case latest =>
      intro other place mapped position later now same
      obtain ⟨before, listed, sameTarget⟩ := target position later now
      exact orderly.latest other place mapped position before listed (sameTarget.trans same)
  case held =>
      intro other another listedCall place holds position later now same
      obtain ⟨before, listed, sameTarget⟩ := target position later now
      exact orderly.held other another listedCall place holds position before listed
        (sameTarget.trans same)
  case within =>
      intro place later now
      rcases putStream_cases now with ⟨rfl, rfl⟩ | ⟨-, before⟩
      · dsimp only
        rw [accepted, List.pairwise_append]
        refine ⟨orderly.within place outlet known, List.pairwise_singleton _ _, ?_⟩
        intro sooner member after isIndex
        rw [List.mem_singleton.mp isIndex]
        exact smaller place outlet known sooner member
      · exact orderly.within place later before
  case across =>
      intro first second sooner later nowFirst nowSecond sameTarget before
      rcases putStream_cases nowFirst with ⟨rfl, rfl⟩ | ⟨differentFirst, oldFirst⟩
      · rcases putStream_cases nowSecond with ⟨rfl, -⟩ | ⟨-, oldSecond⟩
        · exact absurd before (Nat.lt_irrefl _)
        · have above := greatest second later oldSecond (sameTarget.symm.trans own)
          omega
      · rcases putStream_cases nowSecond with ⟨rfl, rfl⟩ | ⟨-, oldSecond⟩
        · intro one memberOne two memberTwo
          dsimp only at memberTwo
          rw [accepted, List.mem_append, List.mem_singleton] at memberTwo
          rcases memberTwo with old | rfl
          · exact orderly.across first second sooner outlet oldFirst known sameTarget before one
              memberOne two old
          · exact smaller first sooner oldFirst one memberOne
        · exact orderly.across first second sooner later oldFirst oldSecond sameTarget before

theorem continueCall (orderly : session.Orderly) (sound : session.Sound) {index : Nat}
    {call : SendCall} (found : session.calls[index]? = some call) (now : Nat) :
    (session.continueCall index call now).Orderly := by
  have placed := sound.placed index call found
  unfold UdpSession.continueCall
  cases stage : call.stage with
  | acquiring earlier =>
      have active : ¬ call.stage.Returned := by simp [stage, SendStage.Returned]
      have acquired : (session.senderFor call.target now).1.Orderly := by
        have evicted := orderly.evictIdleUdpStreams now
        unfold UdpSession.senderFor
        dsimp only
        split
        · split
          · rename_i stream known
            exact evicted.putStream known rfl rfl
          · exact evicted
        · apply evicted.spawnUotStream
          intro other another listed place
          by_cases same : other = index
          · subst same
            have isCall := found.symm.trans listed
            cases isCall
            rw [stage]
            rfl
          · refine Bool.not_eq_true _ ▸ fun holds => same ?_
            have last := orderly.single other another listed (not_returned_of_holds holds)
            have own := orderly.single index call found active
            omega
      obtain ⟨-, mapped, calls⟩ := sound.senderFor call.target now
      apply acquired.setStage (calls ▸ found) active
      intro place holds
      rw [SendStage.holds, decide_eq_true_eq] at holds
      exact acquired.latest call.target place (holds ▸ mapped)
  | holding earlier stream =>
      have active : ¬ call.stage.Returned := by simp [stage, SendStage.Returned]
      simp only [UdpSession.Placed, stage] at placed
      obtain ⟨⟨outlet, known, own⟩, -⟩ := placed
      simp only [known]
      split
      · rename_i alive
        have changed : (session.putStream stream
            { outlet with mailbox := outlet.mailbox.send index }).Orderly :=
          orderly.putStream known rfl (by simp [Mailbox.send, alive, Mailbox.accepted])
        apply changed.setStage found active
        intro place holds
        have before : call.stage.holds place = true := by
          rw [stage]
          exact holds
        exact changed.held index call found place before
      · apply orderly.setStage found active
        intro place holds
        cases earlier <;> cases holds
  | waiting earlier stream =>
      have active : ¬ call.stage.Returned := by simp [stage, SendStage.Returned]
      simp only [UdpSession.Placed, stage] at placed
      obtain ⟨⟨outlet, known, own, -⟩, -⟩ := placed
      simp only [known]
      split
      · rename_i alive
        split
        · rename_i first
          obtain ⟨head, room⟩ := first
          obtain ⟨-, -, -, accepted⟩ := Mailbox.letIn_of_head head room alive
          have changed := orderly.letIn sound found stage known own accepted
          exact changed.setStage found active _ fun place holds => by cases holds
        · exact orderly
      · apply orderly.setStage found active
        intro place holds
        cases earlier <;> cases holds
  | removing stream =>
      have active : ¬ call.stage.Returned := by simp [stage, SendStage.Returned]
      have waits := orderly.setStage found active (.acquiring (some stream))
        fun place holds => by cases holds
      exact waits.fewer fun _ _ mapped => (KeyedMap.lookup_erase_eq_some mapped).2
  | returnedOk stream => exact orderly
  | returnedErr first second => exact orderly

theorem onStream (orderly : session.Orderly) (index : Nat) {access : UdpStream → UdpSession}
    (keeps : ∀ stream, session.spawned[index]? = some stream → (access stream).Orderly) :
    (session.onStream index access).Orderly := by
  unfold UdpSession.onStream
  split
  · exact orderly
  · rename_i stream found
    exact keeps stream found

theorem recv (orderly : session.Orderly) {index : Nat} {stream : UdpStream}
    (found : session.spawned[index]? = some stream) (now : Nat) :
    (session.recv index stream now).Orderly := by
  unfold UdpSession.recv
  split
  · split
    · split
      · exact orderly
      · exact orderly.putStream found rfl rfl
    · exact orderly.putStream found rfl (Mailbox.accepted_recv _)
  · exact orderly

theorem step (orderly : session.Orderly) (sound : session.Sound) {event : UdpSessionEvent}
    (sequential : session.Sequential event) : (session.step event).Orderly := by
  cases event with
  | sendTo target payload => exact orderly.sendTo sequential target payload
  | advance index now =>
      simp only [UdpSession.step]
      split
      · exact orderly
      · rename_i call found
        exact orderly.continueCall sound found now
  | recv index now => exact orderly.onStream index fun stream found => orderly.recv found now
  | respond index now =>
      exact orderly.onStream index fun stream found => orderly.putStream found rfl rfl
  | taskEnds index =>
      exact orderly.onStream index fun stream found => orderly.putStream found rfl rfl
  | cleanup now => exact orderly.evictIdleUdpStreams now

theorem run {events : List UdpSessionEvent}
    (sequential : udpSessionMachine.Meets Sequential .new events) :
    (udpSessionMachine.run .new events).Orderly := by
  have keeps : ∀ (session : UdpSession) (event : UdpSessionEvent), session.Sequential event →
      (session.Sound ∧ session.Orderly) →
      (session.step event).Sound ∧ (session.step event).Orderly := by
    intro session event sequential ⟨sound, orderly⟩
    exact ⟨sound.step event, orderly.step sound sequential⟩
  exact (udpSessionMachine.run_invariant_of_meets keeps ⟨.new, .new⟩ sequential).2

end Orderly

end UdpSession

/-- When each call of `send_to` starts after the earlier ones have returned, the
datagrams for a target are relayed in the order of their calls: within a stream
they are taken out of the channel in that order, and every datagram given to a
stream comes after all that were given to earlier streams of the target. -/
theorem udp_datagrams_keep_order {events : List UdpSessionEvent}
    (sequential : udpSessionMachine.Meets UdpSession.Sequential .new events) :
    let session := udpSessionMachine.run .new events
    (∀ (index : Nat) (stream : UdpStream), session.spawned[index]? = some stream →
      stream.mailbox.taken <+: stream.mailbox.accepted ∧
      stream.mailbox.accepted.Pairwise (· < ·)) ∧
    ∀ (first second : Nat) (earlier later : UdpStream),
      session.spawned[first]? = some earlier → session.spawned[second]? = some later →
      earlier.target = later.target → first < second →
      ∀ sooner ∈ earlier.mailbox.accepted, ∀ after ∈ later.mailbox.accepted, sooner < after := by
  intro session
  have orderly := UdpSession.Orderly.run sequential
  refine ⟨fun index stream known => ?_, orderly.across⟩
  exact ⟨List.prefix_append _ _, orderly.within index stream known⟩

theorem retried_datagrams_keep_order :
    let session := udpSessionMachine.run .new retriedCalls
    session.spawned.map (fun stream => stream.mailbox.accepted) = [[0], [1]] ∧
      ∀ earlier later : UdpStream, session.spawned[0]? = some earlier →
        session.spawned[1]? = some later → earlier.target = later.target →
        ∀ sooner ∈ earlier.mailbox.accepted, ∀ after ∈ later.mailbox.accepted, sooner < after := by
  have sequential : udpSessionMachine.Meets UdpSession.Sequential .new retriedCalls := by
    decide
  refine ⟨by decide, fun earlier later one two same => ?_⟩
  exact (udp_datagrams_keep_order sequential).2 0 1 earlier later one two same (by decide)

end Rtunnel.Anytls.Outbound
