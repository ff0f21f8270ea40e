import Rtunnel.Anytls.Outbound.Reader

namespace Rtunnel.Anytls.Outbound

open Rtunnel.Data

/-! The channels between a session's reader and its applications.

Whatever the order in which the tasks of a session take their steps, a channel is
given the beginning of its stream's data, in order and without the data of other
streams, and the application is written what the channel was given.
-/

/-- What holds of an inlet, given the frames read so far, whether the map leads
to it and whether the reader waits for it.  `offered` says that the channel was
given the beginning of the stream's data, `mapped` that it was given all of it
while the map leads to it; `account` and `emptied` say that the application gets
what the channel was given, and sees its end only after that. -/
structure Inlet.Fair (log : List Frame) (mapped sending : Prop) (inlet : Inlet) : Prop where
  born : inlet.born ≤ log.length
  unended : mapped → ∀ frame ∈ log.drop inlet.born, endsStream inlet.streamId frame = false
  whole : mapped → inlet.mailbox.receiverAlive = true →
    inlet.mailbox.offered = dataFor inlet.streamId (log.drop inlet.born)
  offered : inlet.mailbox.offered <+: heard inlet.streamId (log.drop inlet.born)
  waits : inlet.mailbox.waiting ≠ [] → sending
  single : inlet.mailbox.waiting.length ≤ 1
  account : inlet.failed = false → inlet.written ++ inlet.task.hand = inlet.mailbox.taken
  written : inlet.written <+: inlet.mailbox.taken
  emptied : inlet.task.Left → inlet.failed = false →
    ¬ mapped ∧ ¬ sending ∧ inlet.mailbox.queue = [] ∧ inlet.mailbox.waiting = []
  alive : inlet.mailbox.receiverAlive = false → inlet.task = .ended
  fails : inlet.failed = true → inlet.task.Left

theorem WriterTask.Left.hand_eq_nil {task : WriterTask} (left : task.Left) : task.hand = [] := by
  cases task with
  | writing data => exact left.elim
  | _ => rfl

namespace Inlet.Fair

variable {log : List Frame} {mapped sending : Prop} {inlet : Inlet}

theorem new (log : List Frame) (streamId : UInt32) :
    (Inlet.new streamId log.length).Fair log mapped sending where
  born := Nat.le_refl _
  unended := by
    intro _ frame member
    rw [Inlet.new, List.drop_length] at member
    cases member
  whole := fun _ _ => by simp [Inlet.new, dataFor]
  offered := List.nil_prefix
  waits := fun waiting => absurd rfl waiting
  single := Nat.zero_le 1
  account := fun _ => rfl
  written := List.prefix_rfl
  emptied := fun left => left.elim
  alive := fun gone => nomatch gone
  fails := fun failed => nomatch failed

/-- Before its task leaves its loop, an inlet is in order. -/
theorem running (fair : inlet.Fair log mapped sending) (goesOn : ¬ inlet.task.Left) :
    inlet.mailbox.receiverAlive = true ∧ inlet.failed = false := by
  constructor
  · refine Bool.not_eq_false _ ▸ fun dead => goesOn ?_
    rw [fair.alive dead]
    trivial
  · exact Bool.not_eq_true _ ▸ fun failed => goesOn (fair.fails failed)

/-- As long as the map leads to it, an inlet in order has its receiver. -/
theorem alive_of_mapped (fair : inlet.Fair log mapped sending) (now : mapped)
    (unfailed : inlet.failed = false) : inlet.mailbox.receiverAlive = true := by
  refine Bool.not_eq_false _ ▸ fun dead => ?_
  have left : inlet.task.Left := by
    rw [fair.alive dead]
    trivial
  exact (fair.emptied left unfailed).1 now

/-- The map no longer leads to the inlet. -/
theorem unmap (fair : inlet.Fair log mapped sending) {fewer : Prop} (weaker : fewer → mapped) :
    inlet.Fair log fewer sending :=
  { fair with
    unended := fun now => fair.unended (weaker now)
    whole := fun now => fair.whole (weaker now)
    emptied := fun left whole =>
      ⟨fun now => (fair.emptied left whole).1 (weaker now), (fair.emptied left whole).2⟩ }

/-- A frame that is not the stream's, or comes when the map does not lead here. -/
theorem read (fair : inlet.Fair log mapped sending) {frame : Frame}
    (other : mapped → endsStream inlet.streamId frame = false ∧
      carriesFor inlet.streamId frame = false) :
    inlet.Fair (log ++ [frame]) mapped sending := by
  have grown : (log ++ [frame]).drop inlet.born = log.drop inlet.born ++ [frame] :=
    List.drop_append_of_le_length fair.born
  refine { fair with born := Nat.le_trans fair.born (by simp), unended := ?_, whole := ?_,
                     offered := grown ▸ fair.offered.trans (heard_append _ _) }
  · intro now read member
    rw [grown, List.mem_append, List.mem_singleton] at member
    rcases member with earlier | rfl
    · exact fair.unended now read earlier
    · exact (other now).1
  · intro now alive
    rw [grown, dataFor_append, fair.whole now alive]
    simp [dataFor, (other now).2]

/-- Data of the stream while the map leads here. -/
theorem offer (fair : inlet.Fair log mapped sending) (now : mapped) (idle : ¬ sending)
    {busy : Prop} (starts : busy) {frame : Frame}
    (carries : carriesFor inlet.streamId frame = true) :
    { inlet with mailbox := inlet.mailbox.send frame.data }.Fair (log ++ [frame]) mapped busy := by
  have grown : (log ++ [frame]).drop inlet.born = log.drop inlet.born ++ [frame] :=
    List.drop_append_of_le_length fair.born
  have unended : ∀ other ∈ log.drop inlet.born ++ [frame],
      endsStream inlet.streamId other = false := by
    intro other member
    rcases List.mem_append.mp member with earlier | last
    · exact fair.unended now other earlier
    · rw [List.mem_singleton.mp last]
      exact not_endsStream_of_carriesFor carries
  have data : dataFor inlet.streamId (log.drop inlet.born ++ [frame]) =
      dataFor inlet.streamId (log.drop inlet.born) ++ [frame.data] := by
    rw [dataFor_append]
    simp [dataFor, carries]
  have taken : (inlet.mailbox.send frame.data).taken = inlet.mailbox.taken := by
    unfold Mailbox.send
    split <;> rfl
  have remains : (inlet.mailbox.send frame.data).receiverAlive =
      inlet.mailbox.receiverAlive := by
    unfold Mailbox.send
    split <;> rfl
  have active : ¬ (inlet.task.Left ∧ inlet.failed = false) := fun both =>
    (fair.emptied both.1 both.2).1 now
  constructor
  case born => exact Nat.le_trans fair.born (by simp)
  case unended =>
      intro _ other member
      exact unended other (grown ▸ member)
  case whole =>
      intro _ alive
      dsimp only at alive ⊢
      rw [remains] at alive
      rw [grown, data, Mailbox.offered_send alive, fair.whole now alive]
  case offered =>
      dsimp only
      rw [grown, heard_eq_dataFor unended, data]
      cases alive : inlet.mailbox.receiverAlive with
      | true => rw [Mailbox.offered_send alive, fair.whole now alive]
      | false =>
          have bounced : inlet.mailbox.send frame.data = inlet.mailbox := by
            simp [Mailbox.send, alive]
          rw [bounced, ← heard_eq_dataFor (fair.unended now)]
          exact fair.offered.trans (List.prefix_append _ _)
  case waits => exact fun _ => starts
  case single =>
      have empty : inlet.mailbox.waiting = [] := Classical.not_not.mp (mt fair.waits idle)
      unfold Mailbox.send
      split <;> simp [empty]
  case account => exact fun sound => taken ▸ fair.account sound
  case written => exact taken ▸ fair.written
  case emptied => exact fun left sound => absurd ⟨left, sound⟩ active
  case alive => exact fun gone => fair.alive (remains ▸ gone)
  case fails => exact fair.fails

theorem congr (fair : inlet.Fair log mapped sending) {busy : Prop} (same : sending ↔ busy) :
    inlet.Fair log mapped busy :=
  propext same ▸ fair

/-- The reader no longer waits, since its message came back. -/
theorem rest (fair : inlet.Fair log mapped sending) (idle : inlet.mailbox.waiting = [])
    {busy : Prop} (rests : ¬ busy) : inlet.Fair log mapped busy :=
  { fair with
    waits := fun waiting => absurd idle waiting
    emptied := fun left sound =>
      ⟨(fair.emptied left sound).1, rests, (fair.emptied left sound).2.2⟩ }

/-- With room in the queue the reader's message is let in. -/
theorem letIn (fair : inlet.Fair log mapped sending) (now : sending)
    (alive : inlet.mailbox.receiverAlive = true) (room : inlet.mailbox.HasRoom) {busy : Prop} :
    { inlet with mailbox := inlet.mailbox.letIn }.Fair log mapped busy := by
  have kept : inlet.mailbox.letIn.taken = inlet.mailbox.taken ∧
      inlet.mailbox.letIn.receiverAlive = inlet.mailbox.receiverAlive ∧
      inlet.mailbox.letIn.waiting = [] := by
    have single := fair.single
    unfold Mailbox.letIn
    split
    · rename_i empty
      exact ⟨rfl, rfl, empty⟩
    · rename_i message rest waiting
      rw [dif_pos ⟨room, alive⟩]
      rw [waiting, List.length_cons] at single
      have none : rest = [] := List.eq_nil_of_length_eq_zero (by omega)
      exact ⟨rfl, rfl, none⟩
  constructor
  case born => exact fair.born
  case unended => exact fair.unended
  case whole => exact fun now _ => (Mailbox.offered_letIn _).trans (fair.whole now alive)
  case offered => exact (Mailbox.offered_letIn _).symm ▸ fair.offered
  case waits => exact fun waiting => absurd kept.2.2 waiting
  case single => simp [kept.2.2]
  case account => exact fun sound => (fair.account sound).trans kept.1.symm
  case written => exact kept.1.symm ▸ fair.written
  case emptied => exact fun left sound => absurd now (fair.emptied left sound).2.1
  case alive => exact fun gone => fair.alive (kept.2.1 ▸ gone)
  case fails => exact fair.fails

/-- A step of the writer task that leaves the channel alone. -/
theorem advance (fair : inlet.Fair log mapped sending) (task : WriterTask)
    {written : List (List UInt8)} {failed : Bool}
    (account : failed = false → written ++ task.hand = inlet.mailbox.taken)
    (within : written <+: inlet.mailbox.taken)
    (emptied : task.Left → failed = false →
      ¬ mapped ∧ ¬ sending ∧ inlet.mailbox.queue = [] ∧ inlet.mailbox.waiting = [])
    (fails : failed = true → task.Left) (alive : inlet.mailbox.receiverAlive = true) :
    { inlet with task := task, written := written, failed := failed }.Fair log mapped sending :=
  { fair with
    account := account
    written := within
    emptied := emptied
    alive := fun gone => absurd (alive.symm.trans gone) Bool.true_eq_false.mp
    fails := fails }

theorem receive (fair : inlet.Fair log mapped sending) (receiving : inlet.task = .receiving)
    {data : List UInt8} {rest : List (List UInt8)} (queued : inlet.mailbox.queue = data :: rest) :
    { inlet with mailbox := inlet.mailbox.recv, task := .writing data }.Fair
      log mapped sending where
  born := fair.born
  unended := fair.unended
  whole := fun now alive => (Mailbox.offered_recv _).trans (fair.whole now alive)
  offered := (Mailbox.offered_recv _).symm ▸ fair.offered
  waits := fair.waits
  single := fair.single
  account := by
    intro sound
    have before := fair.account sound
    simp only [receiving, WriterTask.hand, List.append_nil] at before
    simp [Mailbox.recv, WriterTask.hand, queued, before]
  written := fair.written.trans (List.prefix_append _ _)
  emptied := fun left => left.elim
  alive := by
    intro gone
    have ended := fair.alive gone
    rw [receiving] at ended
    cases ended
  fails := by
    intro failed
    have left := fair.fails failed
    rw [receiving] at left
    exact left.elim

/-- The channel is dropped with the stream gone from the map, or with its dial failed. -/
theorem close (fair : inlet.Fair log mapped sending) {failed : Bool}
    (sound : failed = false → inlet.failed = false ∧ inlet.task.Left) :
    { inlet with mailbox := inlet.mailbox.dropReceiver, task := .ended, failed := failed }.Fair
      log mapped sending where
  born := fair.born
  unended := fair.unended
  whole := fun _ alive => nomatch alive
  offered := (Mailbox.offered_dropReceiver _).trans fair.offered
  waits := fun waiting => absurd rfl waiting
  single := Nat.zero_le 1
  account := by
    intro fine
    obtain ⟨unfailed, left⟩ := sound fine
    have before := fair.account unfailed
    rw [left.hand_eq_nil] at before
    exact before
  written := fair.written
  emptied := by
    intro _ fine
    obtain ⟨unfailed, left⟩ := sound fine
    obtain ⟨unmapped, idle, queue, -⟩ := fair.emptied left unfailed
    exact ⟨unmapped, idle, queue, rfl⟩
  alive := fun _ => rfl
  fails := fun _ => trivial

end Inlet.Fair

structure Downlink.Sound (down : Downlink) : Prop where
  keyed : ∀ streamId index, down.streams.lookup streamId = some index →
    ∃ inlet, down.inlets[index]? = some inlet ∧ inlet.streamId = streamId
  removes : ∀ streamId, down.reader = .removing streamId →
    ∃ (index : Nat) (inlet : Inlet), down.inlets[index]? = some inlet ∧
      inlet.streamId = streamId ∧ inlet.mailbox.receiverAlive = false
  sends : ∀ index streamId, down.reader = .sending index streamId →
    ∃ inlet, down.inlets[index]? = some inlet ∧ inlet.streamId = streamId
  fair : ∀ (index : Nat) (inlet : Inlet), down.inlets[index]? = some inlet →
    inlet.Fair down.log (down.streams.lookup inlet.streamId = some index)
      (down.reader.sendsTo index = true)

namespace Downlink

theorem change_self {down : Downlink} {index : Nat} {inlet : Inlet}
    (found : down.inlets[index]? = some inlet) (changed : Inlet) :
    (down.change index changed).inlets[index]? = some changed := by
  have within := (List.getElem?_eq_some_iff.mp found).1
  simp [change, within]

theorem change_ne (down : Downlink) {index other : Nat} (different : other ≠ index)
    (changed : Inlet) : (down.change index changed).inlets[other]? = down.inlets[other]? := by
  simp [change, Ne.symm different]

end Downlink

namespace Downlink.Sound

variable {down : Downlink}

theorem new (state : ClientState) : (Downlink.new state).Sound where
  keyed := fun _ _ found => nomatch found
  removes := fun _ reader => nomatch reader
  sends := fun _ _ reader => nomatch reader
  fair := fun _ _ found => nomatch found

theorem fewer (sound : down.Sound) {streams : KeyedMap UInt32 Nat}
    (sub : ∀ streamId index, streams.lookup streamId = some index →
      down.streams.lookup streamId = some index) : { down with streams := streams }.Sound where
  keyed := fun streamId index found => sound.keyed streamId index (sub streamId index found)
  removes := sound.removes
  sends := sound.sends
  fair := fun index inlet found => (sound.fair index inlet found).unmap (sub _ _)

theorem removeStream (sound : down.Sound) (streamId : UInt32) :
    (down.removeStream streamId).Sound :=
  sound.fewer fun _ _ found => (KeyedMap.lookup_erase_eq_some found).2

theorem clearStreams (sound : down.Sound) : down.clearStreams.Sound :=
  sound.fewer fun _ _ found => nomatch found

/-- The reader takes up something else, and one inlet may change with it. -/
theorem move (sound : down.Sound) {index : Nat} {inlet : Inlet} (changed : Inlet)
    (reader : ReaderTask) (log : List Frame) (found : down.inlets[index]? = some inlet)
    (sameId : changed.streamId = inlet.streamId)
    (gone : inlet.mailbox.receiverAlive = false → changed.mailbox.receiverAlive = false)
    (removes : ∀ streamId, reader = .removing streamId → down.reader = .removing streamId ∨
      streamId = inlet.streamId ∧ changed.mailbox.receiverAlive = false)
    (sends : ∀ other streamId, reader = .sending other streamId →
      down.reader = .sending other streamId ∨ other = index ∧ streamId = inlet.streamId)
    (own : changed.Fair log (down.streams.lookup inlet.streamId = some index)
      (reader.sendsTo index = true))
    (others : ∀ (other : Nat) (another : Inlet), other ≠ index →
      down.inlets[other]? = some another →
      another.Fair log (down.streams.lookup another.streamId = some other)
        (reader.sendsTo other = true)) :
    { down.change index changed with reader := reader, log := log }.Sound := by
  have finds : ∀ (other : Nat) (another : Inlet), down.inlets[other]? = some another →
      ∃ kept, (down.change index changed).inlets[other]? = some kept ∧
        kept.streamId = another.streamId ∧
        (another.mailbox.receiverAlive = false → kept.mailbox.receiverAlive = false) := by
    intro other another known
    by_cases same : other = index
    · subst same
      rw [found] at known
      cases known
      exact ⟨changed, change_self found changed, sameId, gone⟩
    · exact ⟨another, (down.change_ne same changed).trans known, rfl, id⟩
  constructor
  case keyed =>
      intro streamId other mapped
      obtain ⟨another, known, own⟩ := sound.keyed streamId other mapped
      obtain ⟨kept, now, same, -⟩ := finds other another known
      exact ⟨kept, now, same.trans own⟩
  case removes =>
      intro streamId removing
      rcases removes streamId removing with before | ⟨rfl, dead⟩
      · obtain ⟨other, another, known, own, dead⟩ := sound.removes streamId before
        obtain ⟨kept, now, same, still⟩ := finds other another known
        exact ⟨other, kept, now, same.trans own, still dead⟩
      · exact ⟨index, changed, change_self found changed, sameId, dead⟩
  case sends =>
      intro other streamId sending
      rcases sends other streamId sending with before | ⟨rfl, rfl⟩
      · obtain ⟨another, known, own⟩ := sound.sends other streamId before
        obtain ⟨kept, now, same, -⟩ := finds other another known
        exact ⟨kept, now, same.trans own⟩
      · exact ⟨changed, change_self found changed, sameId⟩
  case fair =>
      intro other another known
      by_cases same : other = index
      · subst same
        have isChanged := (change_self found changed).symm.trans known
        cases isChanged
        exact sameId.symm ▸ own
      · exact others other another same ((down.change_ne same changed).symm.trans known)

/-- A step of a writer task. -/
theorem change (sound : down.Sound) {index : Nat} {inlet : Inlet} (changed : Inlet)
    (found : down.inlets[index]? = some inlet) (sameId : changed.streamId = inlet.streamId)
    (gone : inlet.mailbox.receiverAlive = false → changed.mailbox.receiverAlive = false)
    (own : changed.Fair down.log (down.streams.lookup inlet.streamId = some index)
      (down.reader.sendsTo index = true)) :
    (down.change index changed).Sound :=
  sound.move changed down.reader down.log found sameId gone (fun _ same => .inl same)
    (fun _ _ same => .inl same) own fun other another _ known => sound.fair other another known

/-- The reader takes up something else and no inlet changes. -/
theorem turn (sound : down.Sound) {reader : ReaderTask}
    (removes : ∀ streamId, reader = .removing streamId →
      ∃ (index : Nat) (inlet : Inlet), down.inlets[index]? = some inlet ∧
        inlet.streamId = streamId ∧ inlet.mailbox.receiverAlive = false)
    (rests : ∀ index, reader.sendsTo index = false)
    (idle : ∀ (index : Nat) (inlet : Inlet), down.inlets[index]? = some inlet →
      inlet.mailbox.waiting = []) : { down with reader := reader }.Sound where
  keyed := sound.keyed
  removes := removes
  sends := by
    intro index streamId sending
    have rests := rests index
    simp only at sending
    simp [sending, ReaderTask.sendsTo] at rests
  fair := fun index inlet found =>
    (sound.fair index inlet found).rest (idle index inlet found) (by simp [rests index])

theorem idle (sound : down.Sound) (rests : ∀ index, down.reader.sendsTo index = false)
    (index : Nat) (inlet : Inlet) (found : down.inlets[index]? = some inlet) :
    inlet.mailbox.waiting = [] := by
  refine Classical.not_not.mp fun waiting => ?_
  have sending := (sound.fair index inlet found).waits waiting
  rw [rests index] at sending
  cases sending

theorem insert (sound : down.Sound) (streamId : UInt32) : (down.insert streamId).Sound := by
  have old : ∀ (index : Nat) (inlet : Inlet), down.inlets[index]? = some inlet →
      (down.insert streamId).inlets[index]? = some inlet := by
    intro index inlet found
    have within := (List.getElem?_eq_some_iff.mp found).1
    exact (List.getElem?_append_left within).trans found
  constructor
  case keyed =>
      intro other index mapped
      by_cases same : other = streamId
      · subst same
        simp only [Downlink.insert, AList.lookup_insert, Option.some.injEq] at mapped
        subst mapped
        exact ⟨.new other down.log.length, by simp [Downlink.insert], rfl⟩
      · simp only [Downlink.insert, AList.lookup_insert_ne same] at mapped
        obtain ⟨inlet, found, own⟩ := sound.keyed other index mapped
        exact ⟨inlet, old index inlet found, own⟩
  case removes =>
      intro other removing
      obtain ⟨index, inlet, found, rest⟩ := sound.removes other removing
      exact ⟨index, inlet, old index inlet found, rest⟩
  case sends =>
      intro index other sending
      obtain ⟨inlet, found, own⟩ := sound.sends index other sending
      exact ⟨inlet, old index inlet found, own⟩
  case fair =>
      intro index inlet found
      rcases Nat.lt_trichotomy index down.inlets.length with before | last | beyond
      · have known := (List.getElem?_append_left before).symm.trans found
        apply (sound.fair index inlet known).unmap
        intro mapped
        by_cases same : inlet.streamId = streamId
        · rw [same] at mapped
          have last := (AList.lookup_insert down.streams).symm.trans mapped
          rw [Option.some.injEq] at last
          omega
        · simpa only [Downlink.insert, AList.lookup_insert_ne same] using mapped
      · subst last
        simp only [Downlink.insert, List.getElem?_concat_length, Option.some.injEq] at found
        subst found
        exact .new down.log streamId
      · have none : (down.insert streamId).inlets[index]? = none := by
          apply List.getElem?_eq_none
          simp [Downlink.insert]
          omega
        rw [none] at found
        cases found

/-- A frame is read that concerns no stream of the map. -/
theorem logged (sound : down.Sound) {frame : Frame}
    (other : ∀ streamId index, down.streams.lookup streamId = some index →
      endsStream streamId frame = false ∧ carriesFor streamId frame = false)
    (state : ClientState) (replies : List Frame) :
    { down with log := down.log ++ [frame], state := state, replies := replies }.Sound where
  keyed := sound.keyed
  removes := sound.removes
  sends := sound.sends
  fair := fun index inlet found => (sound.fair index inlet found).read (other inlet.streamId index)

/-- The reader hands the data of a frame to the stream that the map leads to. -/
theorem offer (sound : down.Sound) (reading : down.reader = .reading) {frame : Frame}
    (carries : frame.command = .psh) {index : Nat}
    (mapped : down.streams.lookup frame.streamId = some index) :
    ({ down with log := down.log ++ [frame] }.offer index frame).Sound := by
  obtain ⟨inlet, found, own⟩ := sound.keyed frame.streamId index mapped
  have rests : ∀ other, down.reader.sendsTo other = false := by
    intro other
    rw [reading]
    rfl
  simp only [Downlink.offer, found]
  apply sound.move { inlet with mailbox := inlet.mailbox.send frame.data }
    (.sending index frame.streamId) (down.log ++ [frame]) found rfl
  case gone =>
      intro dead
      simp [Mailbox.send, dead]
  case removes =>
      intro _ removing
      cases removing
  case sends =>
      intro other streamId sending
      cases sending
      exact .inr ⟨rfl, own.symm⟩
  case own =>
      apply (sound.fair index inlet found).offer (own ▸ mapped) (by simp [rests index])
      · simp [ReaderTask.sendsTo]
      · simp [carriesFor, own, carries]
  case others =>
      intro other another different known
      have elsewhere : down.streams.lookup another.streamId = some other →
          another.streamId ≠ frame.streamId := by
        intro leads same
        rw [same, mapped, Option.some.injEq] at leads
        exact different leads.symm
      apply ((sound.fair other another known).read ?_).congr
      · rw [rests other]
        simp [ReaderTask.sendsTo, Ne.symm different]
      · intro leads
        simp [endsStream, carriesFor, Ne.symm (elsewhere leads)]

theorem handleFrame (sound : down.Sound) (upstream : PaddingUpstream)
    (reading : down.reader = .reading) (frame : Frame) :
    (down.handleFrame upstream frame).Sound := by
  have rests : ∀ index, down.reader.sendsTo index = false := by
    intro index
    rw [reading]
    rfl
  have logs : ∀ state replies, frame.command ≠ .psh → frame.command ≠ .fin →
      (frame.command = .synack → frame.data = []) →
      { down with log := down.log ++ [frame], state := state, replies := replies }.Sound := by
    intro state replies notPsh notFin acknowledges
    apply sound.logged
    intro streamId index _
    simp only [endsStream, carriesFor, decide_eq_false_iff_not]
    exact ⟨fun ends => ends.2.elim notFin fun refused => refused.2 (acknowledges refused.1),
      fun carries => notPsh carries.2⟩
  have removes : frame.command ≠ .psh →
      ({ down with log := down.log ++ [frame] }.removeStream frame.streamId).Sound := by
    intro notPsh
    apply (sound.removeStream frame.streamId).logged
    intro streamId index mapped
    have different := (KeyedMap.lookup_erase_eq_some mapped).1
    simp [endsStream, carriesFor, Ne.symm different]
  unfold Downlink.handleFrame
  dsimp only
  split
  · rename_i psh
    split
    · rename_i index mapped
      exact sound.offer reading psh mapped
    · rename_i unmapped
      apply sound.logged
      intro streamId index mapped
      have different : frame.streamId ≠ streamId := by
        rintro rfl
        rw [mapped] at unmapped
        cases unmapped
      simp [endsStream, carriesFor, different]
  · rename_i fin
    exact removes (by simp [fin])
  · rename_i synack
    split
    · rename_i empty
      exact logs _ _ (by simp [synack]) (by simp [synack]) fun _ => empty
    · exact removes (by simp [synack])
  · rename_i command
    exact logs _ _ (by simp [command]) (by simp [command]) (by simp [command])
  · rename_i command
    exact logs _ _ (by simp [command]) (by simp [command]) (by simp [command])
  · rename_i command
    have logged := logs down.state down.replies (by simp [command]) (by simp [command])
      (by simp [command])
    exact logged.turn (fun _ removing => by cases removing) (fun _ => rfl) (logged.idle rests)
  · rename_i notPsh notFin notSynack _ _ _
    exact logs _ _ notPsh notFin fun synack => absurd synack notSynack

theorem continueReader (sound : down.Sound) : down.continueReader.Sound := by
  unfold Downlink.continueReader
  split
  · exact sound
  · rename_i index streamId sending
    obtain ⟨inlet, found, own⟩ := sound.sends index streamId sending
    have busy : down.reader.sendsTo index = true := by
      simp [sending, ReaderTask.sendsTo]
    have others : ∀ other, other ≠ index → down.reader.sendsTo other = false := by
      intro other different
      simp [sending, ReaderTask.sendsTo, Ne.symm different]
    simp only [found]
    split
    · rename_i dead
      apply sound.turn
      · intro removed removing
        cases removing
        exact ⟨index, inlet, found, own, dead⟩
      · exact fun _ => rfl
      · intro other another known
        by_cases same : other = index
        · subst same
          rw [found] at known
          cases known
          exact inlet.mailbox.returned dead
        · refine Classical.not_not.mp fun waiting => ?_
          have sends := (sound.fair other another known).waits waiting
          rw [others other same] at sends
          cases sends
    · rename_i alive
      rw [Bool.not_eq_false] at alive
      split
      · rename_i room
        apply sound.move { inlet with mailbox := inlet.mailbox.letIn } .reading down.log found rfl
        · exact fun dead => absurd (alive.symm.trans dead) Bool.true_eq_false.mp
        · intro _ removing
          cases removing
        · intro _ _ sends
          cases sends
        · exact (sound.fair index inlet found).letIn busy alive room
        · intro other another different known
          apply (sound.fair other another known).congr
          rw [others other different]
          rfl
      · exact sound
  · rename_i streamId removing
    have rests : ∀ index, down.reader.sendsTo index = false := by
      simp [removing, ReaderTask.sendsTo]
    have removed := sound.removeStream streamId
    exact removed.turn (fun _ removing => by cases removing) (fun _ => rfl) (removed.idle rests)
  · rename_i closing
    have rests : ∀ index, down.reader.sendsTo index = false := by simp [closing, ReaderTask.sendsTo]
    have cleared := sound.clearStreams
    exact cleared.turn (fun _ removing => by cases removing) (fun _ => rfl) (cleared.idle rests)
  · exact sound

section Tasks

variable {index : Nat} {inlet : Inlet}

theorem dialled (sound : down.Sound) (found : down.inlets[index]? = some inlet)
    (connected : Bool) : (down.dialled index inlet connected).Sound := by
  have fair := sound.fair index inlet found
  unfold Downlink.dialled
  split
  · rename_i dialling
    have goesOn : ¬ inlet.task.Left := by simp [dialling, WriterTask.Left]
    obtain ⟨alive, unfailed⟩ := fair.running goesOn
    have account := fair.account
    rw [dialling] at account
    split
    · apply sound.change { inlet with task := .receiving } found rfl id
      exact fair.advance .receiving account fair.written (fun left => by cases left)
        (fun failed => absurd (unfailed.symm.trans failed) Bool.false_ne_true) alive
    · apply sound.change { inlet with
        mailbox := inlet.mailbox.dropReceiver, task := .ended, failed := true } found rfl
      · exact fun _ => rfl
      · exact fair.close fun sound => by cases sound
  · exact sound

theorem receive (sound : down.Sound) (found : down.inlets[index]? = some inlet) :
    (down.receive index inlet).Sound := by
  have fair := sound.fair index inlet found
  unfold Downlink.receive
  split
  · rename_i data rest receiving queued
    apply sound.change { inlet with mailbox := inlet.mailbox.recv, task := .writing data } found rfl
    · exact id
    · exact fair.receive receiving queued
  · rename_i receiving empty
    split
    · exact sound
    · rename_i noSender
      simp only [hasSender, Bool.or_eq_true, decide_eq_true_eq, not_or] at noSender
      have goesOn : ¬ inlet.task.Left := by simp [receiving, WriterTask.Left]
      have idle : inlet.mailbox.waiting = [] := Classical.not_not.mp (mt fair.waits noSender.2)
      have account := fair.account
      rw [receiving] at account
      apply sound.change { inlet with task := .shutdown } found rfl id
      exact fair.advance .shutdown account fair.written
        (fun _ _ => ⟨noSender.1, noSender.2, empty, idle⟩) (fun _ => trivial)
        (fair.running goesOn).1
  · exact sound

theorem write (sound : down.Sound) (found : down.inlets[index]? = some inlet) (taken : Bool) :
    (down.write index inlet taken).Sound := by
  have fair := sound.fair index inlet found
  unfold Downlink.write
  split
  · rename_i data writing
    have goesOn : ¬ inlet.task.Left := by simp [writing, WriterTask.Left]
    obtain ⟨alive, unfailed⟩ := fair.running goesOn
    have account := fair.account unfailed
    rw [writing] at account
    split
    · apply sound.change { inlet with written := inlet.written ++ [data], task := .receiving }
        found rfl id
      exact fair.advance .receiving (fun _ => (List.append_nil _).trans account)
        (account ▸ List.prefix_rfl) (fun left => by cases left)
        (fun failed => absurd (unfailed.symm.trans failed) Bool.false_ne_true) alive
    · apply sound.change { inlet with failed := true, task := .shutdown } found rfl id
      exact fair.advance .shutdown (fun fine => by cases fine) fair.written
        (fun _ fine => by cases fine) (fun _ => trivial) alive
  · exact sound

theorem finish (sound : down.Sound) (found : down.inlets[index]? = some inlet) :
    (down.finish index inlet).Sound := by
  have fair := sound.fair index inlet found
  unfold Downlink.finish
  split
  · rename_i task
    have account := fair.account
    have emptied := fair.emptied
    rw [task] at account emptied
    apply sound.change { inlet with task := .removing } found rfl id
    apply fair.advance .removing account fair.written (fun _ => emptied trivial) (fun _ => trivial)
    refine Bool.not_eq_false _ ▸ fun dead => ?_
    have ended := fair.alive dead
    rw [task] at ended
    cases ended
  · rename_i task
    have removed := sound.removeStream inlet.streamId
    apply removed.change { inlet with
      mailbox := inlet.mailbox.dropReceiver, task := .ended } found rfl
    · exact fun _ => rfl
    · apply (removed.fair index inlet found).close
      intro unfailed
      exact ⟨unfailed, by rw [task]; trivial⟩
  · exact sound

end Tasks

theorem onInlet (sound : down.Sound) (index : Nat) {access : Inlet → Downlink}
    (keeps : ∀ inlet, down.inlets[index]? = some inlet → (access inlet).Sound) :
    (down.onInlet index access).Sound := by
  unfold Downlink.onInlet
  split
  · exact sound
  · rename_i inlet found
    exact keeps inlet found

theorem step (sound : down.Sound) (upstream : PaddingUpstream) (event : DownlinkEvent) :
    (down.step upstream event).Sound := by
  cases event with
  | insert streamId => exact sound.insert streamId
  | dialled index connected =>
      exact sound.onInlet index fun inlet found => sound.dialled found connected
  | frame frame =>
      simp only [Downlink.step]
      split
      · rename_i reading
        exact sound.handleFrame upstream reading frame
      · exact sound
  | readFails =>
      simp only [Downlink.step]
      split
      · rename_i reading
        have rests : ∀ index, down.reader.sendsTo index = false := by
          simp [reading, ReaderTask.sendsTo]
        exact sound.turn (fun _ removing => by cases removing) (fun _ => rfl) (sound.idle rests)
      · exact sound
  | reader => exact sound.continueReader
  | receive index => exact sound.onInlet index fun inlet found => sound.receive found
  | write index taken => exact sound.onInlet index fun inlet found => sound.write found taken
  | finish index => exact sound.onInlet index fun inlet found => sound.finish found
  | closeStream streamId => exact sound.removeStream streamId
  | clearStreams => exact sound.clearStreams

theorem run (upstream : PaddingUpstream) (state : ClientState) (events : List DownlinkEvent) :
    ((downlinkMachine upstream).run (.new state) events).Sound :=
  (downlinkMachine upstream).run_invariant (fun _ event sound => sound.step upstream event)
    (.new state) events

end Downlink.Sound

end Rtunnel.Anytls.Outbound
