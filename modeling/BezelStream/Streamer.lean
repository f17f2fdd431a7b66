import BezelStream.Config.Loading
import BezelStream.Scan
import BezelStream.Selection

/-! # Streaming

A streamer joins the parts: it finds an adapter, scans, selects a device and leads a
session with it, until it is asked to stop. The adapter is closed whatever happens.
-/

namespace BezelStream

/-- All that streaming needs. -/
structure Streamer (σ : Type) where
  config : Config
  /-- Provides an adapter whose connections are given so many seconds. -/
  locate : Binary64 → Call σ (Adapter σ)
  sink : Sink σ
  prompt : Prompt σ
  wait : StopWait σ
  notifier : Notifier σ

/-- What a stream was about. -/
structure StreamResult where
  device : Device
  subscription : Subscription
  deriving Repr, DecidableEq

namespace Streamer

variable {σ α : Type}

/-- Asks to end one stream. The request stays pending until a stream is let go by it. -/
def requestStop : Op σ Unit Unit :=
  Op.update Progress.requestStop

def findAdapter (s : Streamer σ) : Op σ Unit (Adapter σ) :=
  Op.called (.adapter (.locate s.config.connectTimeout))
    (Op.perform (s.locate s.config.connectTimeout))

def closeAdapter (adapter : Adapter σ) : Op σ Unit Unit :=
  Op.called (.adapter .close) (Op.perform adapter.close)

/-- Works with an adapter, which is closed in the end. -/
def withAdapter (s : Streamer σ) (work : Adapter σ → Op σ Unit α) : Op σ Unit α := do
  let adapter ← s.findAdapter
  (work adapter).ensuring (closeAdapter adapter)

def scanWith (s : Streamer σ) (adapter : Adapter σ) : Op σ Unit (List Device) :=
  scan adapter s.config.scanTimeout (.inWords s.notifier)

/-- The devices that accept connections, targets or not. -/
def listDevices (s : Streamer σ) : Op σ Unit (List Device) :=
  s.withAdapter s.scanWith

def select (s : Streamer σ) (devices : List Device) : Op σ Unit Device :=
  BezelStream.select s.config.target s.config.proposal s.prompt s.notifier devices

def sessionWith (s : Streamer σ) (peripheral : Peripheral σ) : Session σ where
  peripheral := peripheral
  characteristic := s.config.characteristic
  sink := s.sink
  diagnostics := s.config.diagnostics
  notifier := s.notifier

def announcement (device : Device) : String :=
  "Connecting to " ++ device.identifier ++ " [" ++ device.address ++ "]"

/-- Scans, and selects one of the devices that accept connections. -/
def approach (s : Streamer σ) (adapter : Adapter σ) : Op σ Unit Device := do
  let devices ← s.scanWith adapter
  if devices.isEmpty then throw .nothingConnectable
  let device ← s.select devices
  s.notifier.tell (announcement device)
  return device

def createPeripheral (adapter : Adapter σ) (device : Device) : Op σ Unit (Peripheral σ) :=
  Op.called (.adapter (.peripheral device)) (Op.perform (adapter.peripheral device))

def farewell : String := "Disconnected. Exiting."

/-- Streams from the selected one of the devices that an adapter meets. -/
def streamWith (s : Streamer σ) (adapter : Adapter σ) : Op σ Unit StreamResult := do
  let device ← s.approach adapter
  let peripheral ← createPeripheral adapter device
  let subscription ← Op.within {} ((s.sessionWith peripheral).run s.wait)
  s.notifier.tell farewell
  return ⟨device, subscription⟩

def stream (s : Streamer σ) : Op σ Unit StreamResult :=
  s.withAdapter s.streamWith

/-- What the user should know about the host before anything is done: without its tool
    for adapters a missing adapter shows up late. -/
def hostWarnings (platform : String) (hasTool : Bool) : List String :=
  if "linux".toList.isPrefixOf platform.toList && !hasTool then
    ["bluetoothctl not found; adapter presence is only checked once scanning starts."]
  else []

end Streamer

end BezelStream
