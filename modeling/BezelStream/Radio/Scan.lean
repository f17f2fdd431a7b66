import BezelStream.Radio.Machine

/-! # Scanning by radio

Devices with a name are reported as they are met. A device without one is kept back,
because a later advertisement may carry its name, and is reported when the scan ends
if none did. The scanner is stopped before that.
-/

namespace BezelStream.Radio

variable {τ : Type}

/-- What a fault of the scan is for the program: the radio is off, or the scan failed. -/
def scanFault (adapter : String) (fault : Fault) : Fault :=
  fault.wrapped fun f =>
    match f with
    | .radioOff _ => .adapterOff adapter f
    | f => .scan f

/-- Keeps a device back unless one of its address is kept already. -/
def keepBack (device : Device) (unnamed : List Device) : List Device :=
  if unnamed.any fun d => d.address == device.address then unnamed else unnamed ++ [device]

/-- Hears advertisements in order, with the devices kept back so far, and then goes on.
    How a report is taken makes no difference; unreadable advertisements are passed over. -/
def hear (next : List Device → Machine τ → Course (Machine τ)) :
    List Advertisement → (unnamed : List Device) → Machine τ → Course (Machine τ)
  | [], unnamed, m => next unnamed m
  | a :: rest, unnamed, m =>
    match a.device with
    | .error _ => hear next rest unnamed m
    | .ok device =>
      if device.identifier.isEmpty && !device.address.isEmpty then
        hear next rest (keepBack device unnamed) m
      else
        .gives [] (.found device) m fun _ m =>
          hear next rest (unnamed.filter fun d => d.address != device.address) m

def mapFault (wrap : Fault → Fault) : Course (Machine τ) → Course (Machine τ)
  | .ended occurrences result m => .ended occurrences (result.mapError wrap) m
  | .gives occurrences signal m next =>
    .gives occurrences signal m fun result m => mapFault wrap (next result m)

def conclude (m : Machine τ) : Course (Machine τ) :=
  .gives [] .stopped m fun result m => .ended [] result m

/-- Ends a scan: stops the scanner, reports what was kept back, and tells that it is over. -/
def finish (scanner : Scanner τ) (unnamed : List Device) (m : Machine τ) : Course (Machine τ) :=
  let (reply, m) := onHost .stopScan scanner.stop m
  match reply.result with
  | .error f => .ended reply.occurrences (.error f) m
  | .ok () => after reply.occurrences (Course.meets unnamed conclude m)
where
  after (first : List Occurrence) : Course (Machine τ) → Course (Machine τ)
    | .ended occurrences result m => .ended (first ++ occurrences) result m
    | .gives occurrences signal m next => .gives (first ++ occurrences) signal m next

/-- The course of a scan of so many seconds. A fault of the listener at its start ends
    the scan without stopping the scanner, once the advertisements have been heard. -/
def course (scanner : Scanner τ) (adapter : String) (timeout : Binary64) (m : Machine τ) :
    Course (Machine τ) :=
  mapFault (scanFault adapter) <|
    let (reply, m) := onHost .startScan scanner.start m
    match reply.result with
    | .error f => .ended reply.occurrences (.error f) m
    | .ok () =>
      .gives reply.occurrences .started m fun result m =>
        let (heard, host) := scanner.advertisements timeout m.host
        hear (fun unnamed m =>
          match result with
          | .error f => .ended [] (.error f) m
          | .ok () => finish scanner unnamed m) heard [] { m with host }

end BezelStream.Radio
