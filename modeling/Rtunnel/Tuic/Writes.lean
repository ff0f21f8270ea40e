import Rtunnel.Tuic.Inbound.Authentication
import Rtunnel.Tuic.Inbound.Writes
import Rtunnel.Tuic.Outbound.Writes

namespace Rtunnel.Tuic

open Rtunnel.Data

/-! The write queues of both ends of a TUIC connection.

Each end keeps writes that the QUIC library has not taken yet.  As long as no pass
over such a queue returns an error, the library is handed every byte once and in
order, whatever part of a write it takes at a time.
-/

/-- The write queues lose and reorder nothing, at either end. -/
theorem write_queues_lose_nothing :
    (∀ (setting : Inbound.Setting) (start : Nat) (events : List Inbound.Event),
      (Inbound.ledgerMachine setting).Meets Inbound.Ledger.Proceeds
        (Inbound.Ledger.new setting start) events →
      ((Inbound.ledgerMachine setting).run (Inbound.Ledger.new setting start) events).app =
        (Inbound.appMachine setting).run (Inbound.App.new setting start) events ∧
      Inbound.WritesKept
        ((Inbound.ledgerMachine setting).run (Inbound.Ledger.new setting start) events)) ∧
    (∀ (setting : Outbound.ClientSetting) (start : Nat) (outbound : Channel Outbound.QuicWrite)
        (authAnswer connectAnswer : Inbound.App.SendAnswer) (connect : List UInt8)
        (events : List Outbound.ClientEvent),
      outbound.receiverAlive = true →
      encodeConnect setting.core setting.target [] = .ok connect →
      ((Outbound.ClientApp.new start outbound).onConnEstablished setting authAnswer
        connectAnswer).2 = .ok () →
      (Outbound.clientLedgerMachine setting).Meets (Outbound.ClientLedger.Proceeds setting)
        (.established setting start outbound authAnswer connectAnswer connect) events →
      ((Outbound.clientLedgerMachine setting).run
          (.established setting start outbound authAnswer connectAnswer connect) events).app =
        (Outbound.clientMachine setting).run
          ((Outbound.ClientApp.new start outbound).onConnEstablished setting authAnswer
            connectAnswer).1 events ∧
      Outbound.ClientWritesKept ((Outbound.clientLedgerMachine setting).run
        (.established setting start outbound authAnswer connectAnswer connect) events)) := by
  refine ⟨?_, ?_⟩
  · intro setting start events proceeds
    obtain ⟨sound, follows⟩ := Inbound.run_sound (Inbound.Sound.new setting start) proceeds
    exact ⟨follows, sound.writesKept⟩
  · intro setting start outbound authAnswer connectAnswer connect events alive encoded
      succeeded proceeds
    have established := Outbound.ClientLedger.Sound.established alive encoded succeeded
    obtain ⟨sound, follows⟩ := Outbound.client_run_sound established proceeds
    exact ⟨follows, sound.kept⟩

/-- Two packets behind the first half of a stream; everything is taken in parts. -/
def sampleServerWrites : List Inbound.Event :=
  [.uniStream 1 Inbound.asStored 2 Inbound.sampleAuthenticate true,
    .enqueue (.data 0 [1, 2, 3] false),
    .enqueue (.uniStream none none [7, 8]),
    .processWrites 2 [] [.sent 1],
    .processWrites 3 [.uniStream none none [9], .data 0 [4] true] [.sent 2, .done],
    .processWrites 4 [] [.sent 1],
    .processWrites 5 [] [.sent 1, .sent 1, .done]]

def sampleServerLedger : Inbound.Ledger Inbound.sampleSetting :=
  (Inbound.ledgerMachine Inbound.sampleSetting).run (.new Inbound.sampleSetting 0)
    sampleServerWrites

def sampleClientSetting : Outbound.ClientSetting where
  core := tuicV5
  uuid := ⟨⟨List.replicate 16 1, rfl⟩⟩
  password := "secret"
  target := .ip (.v4 loopback 80)
  exporter := Inbound.sampleSetting.exporter

/-- The reading task is ahead of the handshake. -/
def sampleClientChannel : Channel Outbound.QuicWrite where
  capacity := Outbound.channelCapacity
  queue := [.data [1, 2, 3]]
  receiverAlive := true
  within := by decide

/-- The header and the data are taken in parts, a heartbeat between them. -/
def sampleClientWrites : List Outbound.ClientEvent :=
  [.processWrites [] [.sent 5, .sent 3],
    .waitForData (.timer 10),
    .enqueue (.data [4, 5]),
    .enqueue .close,
    .processWrites [] [.sent 2, .sent 1],
    .processWrites [] [.done],
    .processWrites [] [.sent 1, .sent 0]]

def sampleClientLedger : Outbound.ClientLedger :=
  (Outbound.clientLedgerMachine sampleClientSetting).run
    (.established sampleClientSetting 0 sampleClientChannel (.sent 50) (.sent 4)
      [5, 1, 1, 127, 0, 0, 1, 0, 80])
    sampleClientWrites

theorem sample_write_queues_lose_nothing :
    (Inbound.WritesKept sampleServerLedger ∧
      sampleServerLedger.attempts = [(1, 3), (1, 3), (1, 3), (2, 7)] ∧
      Mark.bytesOn 0 (Mark.accepted sampleServerLedger.record) = [1, 2, 3] ∧
      Mark.bytesOn 0 sampleServerLedger.queued = [4]) ∧
    Outbound.ClientWritesKept sampleClientLedger ∧
      Mark.bytesOn 0 (Mark.accepted sampleClientLedger.record) =
        [5, 1, 1, 127, 0, 0, 1, 0, 80, 1, 2, 3, 4, 5] :=
  ⟨⟨(write_queues_lose_nothing.1 Inbound.sampleSetting 0 sampleServerWrites (by decide)).2,
      by decide, by decide, by decide⟩,
    (write_queues_lose_nothing.2 sampleClientSetting 0 sampleClientChannel (.sent 50) (.sent 4)
      [5, 1, 1, 127, 0, 0, 1, 0, 80] sampleClientWrites rfl rfl rfl (by decide)).2,
    by decide⟩

end Rtunnel.Tuic
