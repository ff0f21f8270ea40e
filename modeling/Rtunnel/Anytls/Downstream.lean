import Rtunnel.Anytls.Negotiation
import Rtunnel.Anytls.Outbound.Inlets

namespace Rtunnel.Anytls.Outbound

open Rtunnel.Data

/-! From the server's outbounds to the client's applications.

If neither its application nor the session ends a stream before the server does,
the application gets all of its data and sees its end only after that.  On the
other side a task per stream reads from the outbound and writes frames, between
those of other streams.  Together they carry what the target sends, unchanged.
-/

namespace Downlink

def ids (down : Downlink) : List UInt32 := down.inlets.map Inlet.streamId

@[simp]
theorem ids_insert (down : Downlink) (streamId : UInt32) :
    (down.insert streamId).ids = down.ids ++ [streamId] := by
  simp [ids, Downlink.insert, Inlet.new]

section Ids

variable {down : Downlink} {index : Nat} {inlet : Inlet}

theorem ids_change (changed : Inlet) (found : down.inlets[index]? = some inlet)
    (sameId : changed.streamId = inlet.streamId) : (down.change index changed).ids = down.ids := by
  obtain ⟨within, rfl⟩ := List.getElem?_eq_some_iff.mp found
  rw [ids, Downlink.change, List.map_set, sameId]
  apply List.ext_getElem (by simp [ids])
  intro other _ _
  by_cases same : index = other
  · subst same
    simp [ids]
  · simp [ids, same]

theorem ids_dialled (found : down.inlets[index]? = some inlet) (connected : Bool) :
    (down.dialled index inlet connected).ids = down.ids := by
  unfold Downlink.dialled
  split
  · split
    · exact ids_change _ found rfl
    · exact ids_change _ found rfl
  · rfl

theorem ids_receive (found : down.inlets[index]? = some inlet) :
    (down.receive index inlet).ids = down.ids := by
  unfold Downlink.receive
  split
  · exact ids_change _ found rfl
  · split
    · rfl
    · exact ids_change _ found rfl
  · rfl

theorem ids_write (found : down.inlets[index]? = some inlet) (taken : Bool) :
    (down.write index inlet taken).ids = down.ids := by
  unfold Downlink.write
  split
  · split
    · exact ids_change _ found rfl
    · exact ids_change _ found rfl
  · rfl

theorem ids_finish (found : down.inlets[index]? = some inlet) :
    (down.finish index inlet).ids = down.ids := by
  unfold Downlink.finish
  split
  · exact ids_change _ found rfl
  · exact ids_change _ found rfl
  · rfl

theorem ids_onInlet (down : Downlink) (index : Nat) {access : Inlet → Downlink}
    (step : ∀ inlet, down.inlets[index]? = some inlet → (access inlet).ids = down.ids) :
    (down.onInlet index access).ids = down.ids := by
  unfold Downlink.onInlet
  split
  · rfl
  · rename_i inlet found
    exact step inlet found

theorem ids_offer (down : Downlink) (index : Nat) (frame : Frame) :
    (down.offer index frame).ids = down.ids := by
  unfold Downlink.offer
  split
  · rfl
  · rename_i inlet found
    exact ids_change _ found rfl

theorem ids_handleFrame (upstream : PaddingUpstream) (down : Downlink) (frame : Frame) :
    (down.handleFrame upstream frame).ids = down.ids := by
  unfold Downlink.handleFrame
  dsimp only
  split
  · split
    · exact ids_offer _ _ _
    · rfl
  · rfl
  · split <;> rfl
  · rfl
  · rfl
  · rfl
  · rfl

theorem ids_continueReader (down : Downlink) : down.continueReader.ids = down.ids := by
  unfold Downlink.continueReader
  split
  · rfl
  · split
    · rfl
    · rename_i inlet found
      split
      · rfl
      · split
        · exact ids_change _ found rfl
        · rfl
  · rfl
  · rfl
  · rfl

end Ids

/-- Only dials add streams, and a stream keeps its id. -/
theorem ids_step (upstream : PaddingUpstream) (down : Downlink) {event : DownlinkEvent}
    {streamId : UInt32} (other : event ≠ .insert streamId) (absent : streamId ∉ down.ids) :
    streamId ∉ (down.step upstream event).ids := by
  have kept : ∀ after : Downlink, after.ids = down.ids → streamId ∉ after.ids :=
    fun after same => same ▸ absent
  cases event with
  | insert fresh =>
      have different : streamId ≠ fresh := fun same => other (by rw [same])
      simpa [Downlink.step, different] using absent
  | dialled index connected =>
      exact kept _ (down.ids_onInlet index fun _ found => ids_dialled found connected)
  | frame frame =>
      simp only [Downlink.step]
      split
      · exact kept _ (down.ids_handleFrame upstream frame)
      · exact absent
  | readFails =>
      simp only [Downlink.step]
      split <;> exact absent
  | reader => exact kept _ down.ids_continueReader
  | receive index => exact kept _ (down.ids_onInlet index fun _ found => ids_receive found)
  | write index taken =>
      exact kept _ (down.ids_onInlet index fun _ found => ids_write found taken)
  | finish index => exact kept _ (down.ids_onInlet index fun _ found => ids_finish found)
  | closeStream removed => exact absent
  | clearStreams => exact absent

end Downlink

/-- One dial has the stream for itself, and `start` frames had been read before it
was entered in the map.  As long as neither the session nor its
application fails, the map leads to it, or the server has ended the stream and
the channel was given all of its data. -/
structure Downlink.Keeps (down : Downlink) (index : Nat) (streamId : UInt32) (start : Nat)
    (inlet : Inlet) : Prop where
  found : down.inlets[index]? = some inlet
  own : inlet.streamId = streamId
  born : inlet.born = start
  alone : ∀ other : Nat, down.ids[other]? = some streamId → other = index
  whole : down.reader.InLoop → inlet.failed = false →
    down.streams.lookup streamId = some index ∨
      (∃ frame ∈ down.log.drop inlet.born, endsStream streamId frame = true) ∧
        inlet.mailbox.offered = heard streamId (down.log.drop inlet.born)

namespace Downlink.Keeps

variable {down : Downlink} {index start : Nat} {streamId : UInt32} {inlet : Inlet}

theorem eq_of_own (keeps : down.Keeps index streamId start inlet) {other : Nat} {another : Inlet}
    (found : down.inlets[other]? = some another) (same : another.streamId = streamId) :
    other = index := by
  apply keeps.alone
  simp [ids, found, same]

/-- Once the application's task has left its loop in order, the map leads elsewhere. -/
theorem not_mapped (keeps : down.Keeps index streamId start inlet) (sound : down.Sound)
    (left : inlet.task.Left) (unfailed : inlet.failed = false) :
    down.streams.lookup streamId ≠ some index := by
  rw [← keeps.own]
  exact ((sound.fair index inlet keeps.found).emptied left unfailed).1

/-- A step of some task, which leaves the reader and the log alone. -/
theorem change (keeps : down.Keeps index streamId start inlet) {other : Nat} {another : Inlet}
    (changed : Inlet) (found : down.inlets[other]? = some another)
    (sameId : changed.streamId = another.streamId)
    (own : other = index → changed.born = another.born ∧ (changed.failed = false →
      another.failed = false ∧ changed.mailbox.offered = another.mailbox.offered)) :
    ∃ kept, (down.change other changed).Keeps index streamId start kept := by
  have ids := Downlink.ids_change changed found sameId
  by_cases same : other = index
  · subst same
    have isInlet := found.symm.trans keeps.found
    cases isInlet
    obtain ⟨born, fine⟩ := own rfl
    refine ⟨changed, change_self found changed, sameId.trans keeps.own, born.trans keeps.born,
      ids ▸ keeps.alone, ?_⟩
    intro inLoop unfailed
    obtain ⟨before, offered⟩ := fine unfailed
    rw [born, offered]
    exact keeps.whole inLoop before
  · exact ⟨inlet, (down.change_ne (Ne.symm same) changed).trans keeps.found, keeps.own,
      keeps.born, ids ▸ keeps.alone, keeps.whole⟩

theorem removeStream (keeps : down.Keeps index streamId start inlet) {removed : UInt32}
    (other : inlet.failed = false → down.streams.lookup streamId = some index →
      removed ≠ streamId) : (down.removeStream removed).Keeps index streamId start inlet where
  found := keeps.found
  own := keeps.own
  born := keeps.born
  alone := keeps.alone
  whole := by
    intro inLoop unfailed
    apply (keeps.whole inLoop unfailed).imp_left
    intro mapped
    exact (AList.lookup_erase_ne (Ne.symm (other unfailed mapped))).trans mapped

theorem turn (keeps : down.Keeps index streamId start inlet) {reader : ReaderTask}
    (goesOn : reader.InLoop → down.reader.InLoop) :
    { down with reader := reader }.Keeps index streamId start inlet :=
  ⟨keeps.found, keeps.own, keeps.born, keeps.alone, fun inLoop => keeps.whole (goesOn inLoop)⟩

theorem insert (keeps : down.Keeps index streamId start inlet) {fresh : UInt32}
    (different : fresh ≠ streamId) : (down.insert fresh).Keeps index streamId start inlet where
  found := by
    have within := (List.getElem?_eq_some_iff.mp keeps.found).1
    exact (List.getElem?_append_left within).trans keeps.found
  own := keeps.own
  born := keeps.born
  alone := by
    intro other found
    rw [ids_insert] at found
    by_cases before : other < down.ids.length
    · exact keeps.alone other ((List.getElem?_append_left before).symm.trans found)
    · rw [List.getElem?_append_right (Nat.le_of_not_lt before)] at found
      have last := List.mem_of_getElem? found
      exact absurd (List.mem_singleton.mp last).symm different
  whole := by
    intro inLoop unfailed
    apply (keeps.whole inLoop unfailed).imp_left
    exact (AList.lookup_insert_ne (Ne.symm different)).trans

/-- A frame is read and changes no inlet. -/
theorem logged (keeps : down.Keeps index streamId start inlet) (sound : down.Sound) (frame : Frame)
    {streams : KeyedMap UInt32 Nat}
    (ends : down.streams.lookup streamId = some index →
      streams.lookup streamId = some index ∨ endsStream streamId frame = true)
    (state : ClientState) (replies : List Frame) :
    { down with
      streams := streams, log := down.log ++ [frame], state := state, replies := replies }.Keeps
        index streamId start inlet where
  found := keeps.found
  own := keeps.own
  born := keeps.born
  alone := keeps.alone
  whole := by
    have fair := sound.fair index inlet keeps.found
    have grown : (down.log ++ [frame]).drop inlet.born = down.log.drop inlet.born ++ [frame] :=
      List.drop_append_of_le_length fair.born
    intro inLoop unfailed
    rcases keeps.whole inLoop unfailed with mapped | ⟨ended, offered⟩
    · rcases ends mapped with still | ending
      · exact .inl still
      · have own : down.streams.lookup inlet.streamId = some index := keeps.own ▸ mapped
        have other : carriesFor streamId frame = false := by
          refine Bool.not_eq_true _ ▸ fun carries => ?_
          rw [not_endsStream_of_carriesFor carries] at ending
          cases ending
        refine .inr ⟨⟨frame, by rw [grown]; simp, ending⟩, ?_⟩
        rw [grown, heard_append_other other, fair.whole own (fair.alive_of_mapped own unfailed),
          ← heard_eq_dataFor (fair.unended own), keeps.own]
    · obtain ⟨last, member, ending⟩ := ended
      refine .inr ⟨⟨last, by rw [grown]; exact List.mem_append_left _ member, ending⟩, ?_⟩
      rw [grown, heard_append_of_ended ⟨last, member, ending⟩]
      exact offered

/-- Data for some stream that the map leads to. -/
theorem offer (keeps : down.Keeps index streamId start inlet) (sound : down.Sound) {frame : Frame}
    (inLoop : down.reader.InLoop) {other : Nat}
    (mapped : down.streams.lookup frame.streamId = some other) :
    ∃ kept, ({ down with log := down.log ++ [frame] }.offer other frame).Keeps
      index streamId start kept := by
  obtain ⟨another, found, own⟩ := sound.keyed frame.streamId other mapped
  have logged := keeps.logged sound frame .inl down.state down.replies
  simp only [Downlink.offer, found]
  by_cases same : other = index
  · subst same
    have isInlet := found.symm.trans keeps.found
    cases isInlet
    have ids := ids_change { inlet with mailbox := inlet.mailbox.send frame.data } found rfl
    refine ⟨_, change_self found _, keeps.own, keeps.born, ?_, fun _ _ => .inl ?_⟩
    · intro position listed
      exact keeps.alone position (ids ▸ listed)
    · rw [← keeps.own, own]
      exact mapped
  · obtain ⟨kept, moved⟩ := logged.change
      { another with mailbox := another.mailbox.send frame.data } found rfl
      fun isIndex => absurd isIndex same
    exact ⟨kept, moved.turn fun _ => inLoop⟩

theorem handleFrame (keeps : down.Keeps index streamId start inlet) (sound : down.Sound)
    (upstream : PaddingUpstream) (inLoop : down.reader.InLoop) (frame : Frame) :
    ∃ kept, (down.handleFrame upstream frame).Keeps index streamId start kept := by
  have unmoved : ∀ state replies, { down with
      log := down.log ++ [frame], state := state, replies := replies }.Keeps
        index streamId start inlet :=
    fun state replies => keeps.logged sound frame .inl state replies
  have removes : (frame.command = .fin ∨ frame.command = .synack ∧ frame.data ≠ []) →
      ({ down with log := down.log ++ [frame] }.removeStream frame.streamId).Keeps
        index streamId start inlet := by
    intro ends
    apply keeps.logged sound frame
    intro mapped
    by_cases same : frame.streamId = streamId
    · exact .inr (by simp [endsStream, same, ends])
    · exact .inl ((AList.lookup_erase_ne (Ne.symm same)).trans mapped)
  unfold Downlink.handleFrame
  dsimp only
  split
  · split
    · rename_i other mapped
      exact keeps.offer sound inLoop mapped
    · exact ⟨inlet, unmoved _ _⟩
  · rename_i fin
    exact ⟨inlet, removes (.inl fin)⟩
  · rename_i synack
    split
    · exact ⟨inlet, unmoved _ _⟩
    · rename_i refused
      exact ⟨inlet, removes (.inr ⟨synack, refused⟩)⟩
  · exact ⟨inlet, unmoved _ _⟩
  · exact ⟨inlet, unmoved _ _⟩
  · exact ⟨inlet, (unmoved _ _).turn fun inLoop => absurd rfl inLoop.1⟩
  · exact ⟨inlet, unmoved _ _⟩

theorem continueReader (keeps : down.Keeps index streamId start inlet) (sound : down.Sound) :
    ∃ kept, down.continueReader.Keeps index streamId start kept := by
  unfold Downlink.continueReader
  split
  · exact ⟨inlet, keeps⟩
  · rename_i other sent sending
    have inLoop : down.reader.InLoop := by simp [sending, ReaderTask.InLoop]
    split
    · exact ⟨inlet, keeps⟩
    · rename_i another found
      split
      · exact ⟨inlet, keeps.turn fun _ => inLoop⟩
      · split
        · obtain ⟨kept, moved⟩ := keeps.change { another with mailbox := another.mailbox.letIn }
            found rfl fun _ => ⟨rfl, fun unfailed => ⟨unfailed, Mailbox.offered_letIn _⟩⟩
          exact ⟨kept, moved.turn fun _ => inLoop⟩
        · exact ⟨inlet, keeps⟩
  · rename_i removed removing
    have inLoop : down.reader.InLoop := by simp [removing, ReaderTask.InLoop]
    refine ⟨inlet, (keeps.removeStream ?_).turn fun _ => inLoop⟩
    intro unfailed mapped same
    obtain ⟨other, another, found, own, dead⟩ := sound.removes removed removing
    have isIndex := keeps.eq_of_own found (own.trans same)
    subst isIndex
    have isInlet := found.symm.trans keeps.found
    cases isInlet
    have left : inlet.task.Left := by
      rw [(sound.fair other inlet found).alive dead]
      trivial
    exact keeps.not_mapped sound left unfailed mapped
  · exact ⟨inlet, keeps.found, keeps.own, keeps.born, keeps.alone,
      fun inLoop => absurd rfl inLoop.2⟩
  · exact ⟨inlet, keeps⟩

section Tasks

variable {other : Nat} {another : Inlet}

theorem dialled (keeps : down.Keeps index streamId start inlet)
    (found : down.inlets[other]? = some another) (connected : Bool) :
    ∃ kept, (down.dialled other another connected).Keeps index streamId start kept := by
  unfold Downlink.dialled
  split
  · split
    · exact keeps.change { another with task := .receiving } found rfl
        fun _ => ⟨rfl, fun unfailed => ⟨unfailed, rfl⟩⟩
    · exact keeps.change { another with
        mailbox := another.mailbox.dropReceiver, task := .ended, failed := true } found rfl
        fun _ => ⟨rfl, fun unfailed => by cases unfailed⟩
  · exact ⟨inlet, keeps⟩

theorem receive (keeps : down.Keeps index streamId start inlet)
    (found : down.inlets[other]? = some another) :
    ∃ kept, (down.receive other another).Keeps index streamId start kept := by
  unfold Downlink.receive
  split
  · rename_i data _ _ _
    exact keeps.change { another with mailbox := another.mailbox.recv, task := .writing data }
      found rfl fun _ => ⟨rfl, fun unfailed => ⟨unfailed, Mailbox.offered_recv _⟩⟩
  · split
    · exact ⟨inlet, keeps⟩
    · exact keeps.change { another with task := .shutdown } found rfl
        fun _ => ⟨rfl, fun unfailed => ⟨unfailed, rfl⟩⟩
  · exact ⟨inlet, keeps⟩

theorem write (keeps : down.Keeps index streamId start inlet)
    (found : down.inlets[other]? = some another) (taken : Bool) :
    ∃ kept, (down.write other another taken).Keeps index streamId start kept := by
  unfold Downlink.write
  split
  · rename_i data _
    split
    · exact keeps.change { another with written := another.written ++ [data], task := .receiving }
        found rfl fun _ => ⟨rfl, fun unfailed => ⟨unfailed, rfl⟩⟩
    · exact keeps.change { another with failed := true, task := .shutdown } found rfl
        fun _ => ⟨rfl, fun unfailed => by cases unfailed⟩
  · exact ⟨inlet, keeps⟩

theorem finish (keeps : down.Keeps index streamId start inlet) (sound : down.Sound)
    (found : down.inlets[other]? = some another) :
    ∃ kept, (down.finish other another).Keeps index streamId start kept := by
  unfold Downlink.finish
  split
  · exact keeps.change { another with task := .removing } found rfl
      fun _ => ⟨rfl, fun unfailed => ⟨unfailed, rfl⟩⟩
  · rename_i removing
    have left : another.task.Left := by
      rw [removing]
      trivial
    have removed : (down.removeStream another.streamId).Keeps index streamId start inlet := by
      apply keeps.removeStream
      intro unfailed mapped same
      have isIndex := keeps.eq_of_own found same
      subst isIndex
      have isInlet := found.symm.trans keeps.found
      cases isInlet
      exact keeps.not_mapped sound left unfailed mapped
    apply removed.change { another with
      mailbox := another.mailbox.dropReceiver, task := .ended } found rfl
    intro isIndex
    refine ⟨rfl, fun unfailed => ⟨unfailed, ?_⟩⟩
    have emptied := (sound.fair other another found).emptied left unfailed
    simp [Mailbox.offered, Mailbox.accepted, Mailbox.dropReceiver, emptied.2.2.2]
  · exact ⟨inlet, keeps⟩

end Tasks

end Downlink.Keeps

/-- The events that leave the end of a stream to the server. -/
def DownlinkEvent.Spares (streamId : UInt32) : DownlinkEvent → Prop
  | .insert other => other ≠ streamId
  | .closeStream other => other ≠ streamId
  | .clearStreams => False
  | _ => True

namespace Downlink.Keeps

variable {down : Downlink} {index start : Nat} {streamId : UInt32} {inlet : Inlet}

theorem onInlet (keeps : down.Keeps index streamId start inlet) (other : Nat)
    {access : Inlet → Downlink}
    (step : ∀ another, down.inlets[other]? = some another →
      ∃ kept, (access another).Keeps index streamId start kept) :
    ∃ kept, (down.onInlet other access).Keeps index streamId start kept := by
  unfold Downlink.onInlet
  split
  · exact ⟨inlet, keeps⟩
  · rename_i another found
    exact step another found

theorem step (keeps : down.Keeps index streamId start inlet) (sound : down.Sound)
    (upstream : PaddingUpstream) {event : DownlinkEvent} (spares : event.Spares streamId) :
    ∃ kept, (down.step upstream event).Keeps index streamId start kept := by
  cases event with
  | insert fresh => exact ⟨inlet, keeps.insert spares⟩
  | dialled other connected =>
      exact keeps.onInlet other fun another found => keeps.dialled found connected
  | frame frame =>
      simp only [Downlink.step]
      split
      · rename_i reading
        exact keeps.handleFrame sound upstream (by simp [reading, ReaderTask.InLoop]) frame
      · exact ⟨inlet, keeps⟩
  | readFails =>
      simp only [Downlink.step]
      split
      · exact ⟨inlet, keeps.turn fun inLoop => absurd rfl inLoop.1⟩
      · exact ⟨inlet, keeps⟩
  | reader => exact keeps.continueReader sound
  | receive other => exact keeps.onInlet other fun another found => keeps.receive found
  | write other taken => exact keeps.onInlet other fun another found => keeps.write found taken
  | finish other => exact keeps.onInlet other fun another found => keeps.finish sound found
  | closeStream removed => exact ⟨inlet, keeps.removeStream fun _ _ => spares⟩
  | clearStreams => exact spares.elim

theorem run (keeps : down.Keeps index streamId start inlet) (sound : down.Sound)
    (upstream : PaddingUpstream) {events : List DownlinkEvent}
    (spared : ∀ event ∈ events, event.Spares streamId) :
    ((downlinkMachine upstream).run down events).Sound ∧
      ∃ kept, ((downlinkMachine upstream).run down events).Keeps index streamId start kept := by
  have step : ∀ (current : Downlink) (event : DownlinkEvent), event.Spares streamId →
      (current.Sound ∧ ∃ kept, current.Keeps index streamId start kept) →
      (current.step upstream event).Sound ∧
        ∃ kept, (current.step upstream event).Keeps index streamId start kept := by
    intro current event spares ⟨sound, kept, keeps⟩
    exact ⟨sound.step upstream event, keeps.step sound upstream spares⟩
  exact (downlinkMachine upstream).run_invariant_of_forall step ⟨sound, inlet, keeps⟩ spared

end Downlink.Keeps

theorem Downlink.Keeps.inserted {down : Downlink} {streamId : UInt32}
    (fresh : streamId ∉ down.ids) :
    (down.insert streamId).Keeps down.inlets.length streamId down.log.length
      (.new streamId down.log.length) where
  found := by simp [Downlink.insert]
  own := rfl
  born := rfl
  alone := by
    intro other found
    rw [Downlink.ids_insert] at found
    by_cases before : other < down.ids.length
    · have listed := (List.getElem?_append_left before).symm.trans found
      exact absurd (List.mem_of_getElem? listed) fresh
    · have within := (List.getElem?_eq_some_iff.mp found).1
      simp only [Downlink.ids, List.length_append, List.length_map, List.length_singleton]
        at within before
      omega
  whole := fun _ _ => .inl (AList.lookup_insert _)

/-- Of a stream that was dialled once and that neither its application nor the
session ends before the server, the application is written the data in order and
nothing else.  While the reader reads and no write to the application fails,
nothing is lost on the way; and the application sees the end of the stream only
after the server has ended it, when all of the data before that has been written. -/
theorem application_gets_its_stream (upstream : PaddingUpstream) (state : ClientState)
    {before after : List DownlinkEvent} {streamId : UInt32}
    (fresh : .insert streamId ∉ before) (spared : ∀ event ∈ after, event.Spares streamId) :
    let earlier := (downlinkMachine upstream).run (.new state) before
    let down := (downlinkMachine upstream).run (.new state) (before ++ .insert streamId :: after)
    let stream := heard streamId (down.log.drop earlier.log.length)
    ∃ inlet, down.inlets[earlier.inlets.length]? = some inlet ∧ inlet.streamId = streamId ∧
      inlet.written <+: stream ∧
      (down.reader.InLoop → inlet.failed = false →
        inlet.written ++ inlet.task.hand ++ inlet.mailbox.queue ++ inlet.mailbox.waiting = stream ∧
        (inlet.task.Left → inlet.written = stream ∧
          ∃ frame ∈ down.log.drop earlier.log.length, endsStream streamId frame = true)) := by
  intro earlier down stream
  have absent : streamId ∉ earlier.ids := by
    apply (downlinkMachine upstream).run_invariant_of_forall
      (fun state event other => state.ids_step upstream other) (show streamId ∉ [] from nofun)
    exact fun event member same => fresh (same ▸ member)
  have sound : (earlier.insert streamId).Sound :=
    (Downlink.Sound.run upstream state before).insert streamId
  have split : (downlinkMachine upstream).run (earlier.insert streamId) after = down := by
    simp only [down, earlier, Machine.run_append, Machine.run_cons]
    rfl
  have reached := (Downlink.Keeps.inserted absent).run sound upstream spared
  rw [split] at reached
  obtain ⟨sound, inlet, keeps⟩ := reached
  have fair := sound.fair _ inlet keeps.found
  have offered := fair.offered
  rw [keeps.own, keeps.born] at offered
  refine ⟨inlet, keeps.found, keeps.own, ?_, ?_⟩
  · apply fair.written.trans
    apply List.IsPrefix.trans _ offered
    rw [Mailbox.offered, Mailbox.accepted, List.append_assoc]
    exact List.prefix_append _ _
  intro inLoop unfailed
  have account := fair.account unfailed
  have whole : inlet.mailbox.offered = stream := by
    rcases keeps.whole inLoop unfailed with mapped | ⟨-, all⟩
    · rw [← keeps.own] at mapped
      have heardAll := heard_eq_dataFor (fair.unended mapped)
      rw [fair.whole mapped (fair.alive_of_mapped mapped unfailed), ← heardAll, keeps.own,
        keeps.born]
    · rw [all, keeps.born]
  have total : inlet.written ++ inlet.task.hand ++ inlet.mailbox.queue ++ inlet.mailbox.waiting =
      stream := by
    rw [account, ← whole]
    rfl
  refine ⟨total, fun left => ?_⟩
  obtain ⟨-, -, queue, waiting⟩ := fair.emptied left unfailed
  rw [left.hand_eq_nil, queue, waiting, List.append_nil, List.append_nil, List.append_nil] at total
  refine ⟨total, ?_⟩
  rcases keeps.whole inLoop unfailed with mapped | ⟨ended, -⟩
  · exact absurd mapped (keeps.not_mapped sound left unfailed)
  · rw [keeps.born] at ended
    exact ended

def outboundBuffer : Nat := 16 * 1024

/-- What reading from an outbound gives. -/
inductive OutboundRead where
  | data (bytes : List UInt8) (short : bytes.length ≤ outboundBuffer)
  | eof
  | fails (reason : Failure)

/-- The task that reads from the outbound of one stream: what it has read and the
frames it has written to the client. -/
structure OutboundReader where
  running : Bool
  read : List UInt8
  frames : List Frame

namespace OutboundReader

def new : OutboundReader := ⟨true, [], []⟩

def dataFrame (streamId : UInt32) (bytes : List UInt8) (short : bytes.length ≤ outboundBuffer) :
    Frame :=
  ⟨.psh, streamId, bytes, Nat.le_trans short (by decide)⟩

def finFrame (streamId : UInt32) : Frame := ⟨.fin, streamId, [], Nat.zero_le _⟩

/-- One turn of the loop of `spawn_outbound_reader`, with the answer to its write. -/
def step (streamId : UInt32) (reader : OutboundReader) :
    OutboundRead × Except Failure Unit → OutboundReader
  | (outcome, answer) =>
      if reader.running then
        match outcome, answer with
        | .data bytes short, .ok () =>
            { reader with
              read := reader.read ++ bytes
              frames := reader.frames ++ [dataFrame streamId bytes short] }
        | .data _ _, .error _ => { reader with running := false }
        | _, .ok () =>
            { reader with running := false, frames := reader.frames ++ [finFrame streamId] }
        | _, .error _ => { reader with running := false }
      else reader

end OutboundReader

def outboundReaderMachine (streamId : UInt32) :
    Machine OutboundReader (OutboundRead × Except Failure Unit) Unit :=
  ⟨fun reader event => (reader.step streamId event, ())⟩

/-- The frames of the task are data, in the order it was read, and a FIN after it. -/
def OutboundReader.Wrote (streamId : UInt32) (reader : OutboundReader) : Prop :=
  ∃ (payloads : List Frame) (ending : List Frame), reader.frames = payloads ++ ending ∧
    (∀ frame ∈ payloads, carriesFor streamId frame = true) ∧
    (ending = [] ∨ reader.running = false ∧ ending = [finFrame streamId]) ∧
    (payloads.map Frame.data).flatten = reader.read

theorem OutboundReader.Wrote.step {streamId : UInt32} {reader : OutboundReader}
    (wrote : reader.Wrote streamId) (event : OutboundRead × Except Failure Unit) :
    (reader.step streamId event).Wrote streamId := by
  obtain ⟨payloads, ending, frames, carries, ends, read⟩ := wrote
  obtain ⟨outcome, answer⟩ := event
  simp only [OutboundReader.step]
  split
  · rename_i running
    have goesOn : ending = [] := ends.resolve_right fun stopped => by
      rw [running] at stopped
      cases stopped.1
    subst goesOn
    rw [List.append_nil] at frames
    have stopped : ({ reader with running := false } : OutboundReader).Wrote streamId :=
      ⟨payloads, [], by rw [List.append_nil]; exact frames, carries, .inl rfl, read⟩
    have finished : ({ reader with
        running := false
        frames := reader.frames ++ [finFrame streamId] } : OutboundReader).Wrote streamId :=
      ⟨payloads, [finFrame streamId], by rw [← frames], carries, .inr ⟨rfl, rfl⟩, read⟩
    split
    · rename_i bytes short
      refine ⟨payloads ++ [dataFrame streamId bytes short], [], ?_, ?_, .inl rfl, ?_⟩
      · rw [List.append_nil, frames]
      · intro frame member
        rcases List.mem_append.mp member with earlier | last
        · exact carries frame earlier
        · rw [List.mem_singleton.mp last]
          simp [carriesFor, dataFrame]
      · simp [dataFrame, read]
    · exact stopped
    · exact finished
    · exact stopped
  · exact ⟨payloads, ending, frames, carries, ends, read⟩

theorem OutboundReader.Wrote.run (streamId : UInt32)
    (reads : List (OutboundRead × Except Failure Unit)) :
    ((outboundReaderMachine streamId).run .new reads).Wrote streamId := by
  have initial : OutboundReader.new.Wrote streamId := ⟨[], [], rfl, nofun, .inl rfl, rfl⟩
  exact (outboundReaderMachine streamId).run_invariant (fun _ event wrote => wrote.step event)
    initial reads

/-- The frames that tell the client something about a stream. -/
def concerns (streamId : UInt32) (frame : Frame) : Bool :=
  carriesFor streamId frame || endsStream streamId frame

theorem heard_cons (streamId : UInt32) (frame : Frame) (read : List Frame) :
    heard streamId (frame :: read) =
      if endsStream streamId frame then []
      else if carriesFor streamId frame then frame.data :: heard streamId read
      else heard streamId read := by
  cases ends : endsStream streamId frame with
  | true => simp [heard, dataFor, ends]
  | false =>
      cases carries : carriesFor streamId frame <;> simp [heard, dataFor, ends, carries]

theorem heard_filter (streamId : UInt32) (read : List Frame) :
    heard streamId (read.filter (concerns streamId)) = heard streamId read := by
  induction read with
  | nil => rfl
  | cons frame read ih =>
      rw [heard_cons]
      cases ends : endsStream streamId frame with
      | true => simp [concerns, ends, heard_cons]
      | false =>
          cases carries : carriesFor streamId frame with
          | true => simp [concerns, ends, carries, heard_cons, ih]
          | false => simp [concerns, ends, carries, ih]

/-- What is heard from the beginning of a task's frames. -/
theorem heard_of_beginning {streamId : UInt32} {payloads ending read : List Frame}
    (carries : ∀ frame ∈ payloads, carriesFor streamId frame = true)
    (ends : ending = [] ∨ ending = [OutboundReader.finFrame streamId])
    (within : read <+: payloads ++ ending) :
    heard streamId read <+: payloads.map Frame.data ∧
      ((∃ frame ∈ read, endsStream streamId frame = true) →
        heard streamId read = payloads.map Frame.data) := by
  induction payloads generalizing read with
  | nil =>
      rcases ends with rfl | rfl
      · rw [List.append_nil, List.prefix_nil] at within
        subst within
        exact ⟨List.nil_prefix, fun _ => rfl⟩
      · have silent : heard streamId read = [] := by
          rcases List.prefix_cons_iff.mp within with rfl | ⟨rest, rfl, shorter⟩
          · rfl
          · simp [heard_cons, OutboundReader.finFrame, endsStream]
        rw [silent]
        exact ⟨List.nil_prefix, fun _ => rfl⟩
  | cons payload payloads ih =>
      have first := carries payload List.mem_cons_self
      have unended := not_endsStream_of_carriesFor first
      rcases List.prefix_cons_iff.mp within with rfl | ⟨rest, rfl, shorter⟩
      · refine ⟨List.nil_prefix, fun ended => ?_⟩
        obtain ⟨frame, member, -⟩ := ended
        cases member
      · obtain ⟨soFar, all⟩ :=
          ih (fun frame member => carries frame (List.mem_cons_of_mem _ member)) shorter
        simp only [heard_cons, unended, first, Bool.false_eq_true, if_false, if_true,
          List.map_cons]
        refine ⟨(List.prefix_cons_inj _).mpr soFar, fun ended => ?_⟩
        obtain ⟨frame, member, ending⟩ := ended
        rcases List.mem_cons.mp member with rfl | later
        · rw [unended] at ending
          cases ending
        · rw [all ⟨frame, later, ending⟩]

/-- One stream whose target sends two bytes and closes. -/
def sampleReads : List (OutboundRead × Except Failure Unit) :=
  [(.data [104, 105] (by decide), .ok ()), (.eof, .ok ())]

def sampleAnswers : List DownlinkEvent :=
  [.dialled 0 true, .frame (OutboundReader.dataFrame 1 [104, 105] (by decide)), .reader,
    .receive 0, .write 0 true, .frame (OutboundReader.finFrame 1), .receive 0]

def answeredState : ClientState := ⟨"md5", 30, ⟨8, -1, fun _ => []⟩⟩

/-- The application has seen the end of its stream. -/
theorem sampleAnswers_end :
    let down := (downlinkMachine sampleUpstream).run (.new answeredState)
      (.insert 1 :: sampleAnswers)
    down.reader = .reading ∧
      down.inlets[0]?.map (fun inlet => (inlet.task, inlet.failed)) = some (.shutdown, false) := by
  decide

end Rtunnel.Anytls.Outbound
