import CanStream.Protocol.IsoTp
import CanStream.Text.Hex
import CanStream.Tool.Outcome

/-!
# The tool for transport connections

Sends the payload given on the command line, and prints the payloads that are received, one in a
line.
-/

namespace CanStream.Tool.Payloads

def spec : CommandSpec where
  options :=
    [.text "tx" (some 's') .value true, .text "rx" (some 'd') .value true,
      .switch "pad" (some 'p'), .switch "listen-only" (some 'l'), .switch "wait" (some 'w'),
      ⟨"fd", none, .value, false, false, fun s => (byte? s).isSome⟩,
      ⟨"timeout", some 't', .value, true, false, fun s => (integer? s).isSome⟩]
  mostWords := some 2

/-- What goes wrong with the tool. -/
inductive Failure
  | badId (text : String) (cause : NumberError)
  | idOutOfRange (text : String)
  | badPayload (text : String) (cause : Hex.DecodeError)
  | badDataLength (n : Nat) (cause : ConstructionError)
  | notConnected (iface message : String)
  | payloadRefused (cause : SocketError)
  | notSent (message : String)
  | notReceived (message : String)
  deriving DecidableEq

def Failure.message : Failure → String
  | badId text cause => because ("Bad CAN ID " ++ quoted text) cause.message
  | idOutOfRange text => "CAN ID " ++ quoted text ++ " is out of range"
  | badPayload text cause => because ("Bad hex payload " ++ quoted text) cause.message
  | badDataLength n cause => because ("Bad FD data length " ++ toString n) cause.message
  | notConnected iface message => because ("Can't connect to " ++ quoted iface) message
  | payloadRefused cause => because "Can't send the payload" cause.message
  | notSent message => because "Error sending" message
  | notReceived message => because "Error receiving" message

def parseId (s : String) : Except Failure CanId :=
  match Number.unsigned 16 0x100000000 s.toList with
  | .error cause => .error (.badId s cause)
  | .ok n =>
      match CanId.ofRaw? (UInt32.ofNat n) with
      | none => .error (.idOutOfRange s)
      | some id => .ok id

def parsePayload (s : String) : Except Failure (List UInt8) :=
  (Hex.decode s.toList).mapError (.badPayload s)

abbrev Run : Type → Type := SocketM IsoTp.protocol

def sendPayload (payload : List UInt8) (wait : Wait) : Run (Option Failure) := do
  let result : Except SocketError Nat ← Socket.perform (.write payload)
  match result with
  | .error cause => pure (some (.payloadRefused cause))
  | .ok _ => do
      if ← pushOut wait wait.turns then pure none
      else do
        let s ← get
        pure (some (.notSent s.error.message))

/-- Takes what comes in until nothing comes any more, or only the first thing that is not empty.
What was taken before is given, and comes first in the result. -/
def dump (once : Bool) (wait : Wait) :
    Nat → List (List UInt8) → Run (List (List UInt8) × Option Failure)
  | 0, _ => Socket.never
  | rounds + 1, seen => do
      let ready : Bool ← Socket.perform (.waitForReadyRead wait)
      if ready then do
        let data : List UInt8 ← Socket.perform .readAll
        if data.isEmpty then dump once wait rounds seen
        else if once then pure (seen ++ [data], none)
        else dump once wait rounds (seen ++ [data])
      else do
        let s ← get
        pure (seen, if s.error.kind = .timeout then none else some (.notReceived s.error.message))

/-- What the tool is asked to do. -/
structure Plan where
  iface : String
  tx : CanId
  rx : CanId
  payload : Option (List UInt8)
  options : List IsoTp.Value
  reply : Bool
  timeout : Option Int

/-- The general options that the arguments ask for. -/
def generalOptions (g : Given) : IsoTp.Options :=
  let o := IsoTp.Options.initial
  let flags := o.namedFlags.put IsoTp.listenMode (g.has "listen-only")
  { o with flags := (flags.put IsoTp.txPadding (g.has "pad")).bits }

def linkOptions (n : Nat) : Except Failure IsoTp.LinkLayer :=
  (IsoTp.LinkLayer.fd n 0).mapError (.badDataLength n)

def plan (g : Given) : Except Failure Plan := do
  let tx ← parseId ((g.value? "tx").getD "")
  let rx ← parseId ((g.value? "rx").getD "")
  let payload ← g.words[1]?.mapM parsePayload
  let link ← ((g.value? "fd").bind byte?).mapM linkOptions
  pure {
    iface := g.words.headD ""
    tx := tx
    rx := rx
    payload := payload
    options := [.options (generalOptions g)] ++ (link.map .linkLayer).toList
    reply := g.has "wait"
    timeout := (g.value? "timeout").bind integer? }

/-- Connects, sends the payload, and takes what is received, if there is no payload or a reply is
waited for. -/
def exchange (p : Plan) (wait : Wait) : Run (List (List UInt8) × Option Failure) := do
  let values := p.options ++ [.txId p.tx, .rxId p.rx]
  let settings := values.map fun v => (v.option, v)
  let connected : Bool ← Socket.perform (.connectWith settings p.iface OpenMode.readWrite)
  if connected then
    match p.payload with
    | none => dump false wait wait.turns []
    | some payload => do
        match ← sendPayload payload wait with
        | some failure => pure ([], some failure)
        | none => if p.reply then dump true wait wait.turns [] else pure ([], none)
  else do
    let s ← get
    pure ([], some (.notConnected p.iface s.error.message))

def run (words : List String) (e : Endpoint) (elapsed : Nat → Nat) (turns : Nat) :
    Option Outcome :=
  match arguments spec words with
  | .error usage => some (.ofUsage usage e)
  | .ok g =>
      match plan g with
      | .error failure => some (.ofRun [] (some failure.message) e)
      | .ok p =>
          withSocket (P := IsoTp.protocol) IsoTp.State.initial e do
            let (payloads, failure) ← exchange p (waitOf p.timeout elapsed turns)
            pure (payloads.map Hex.upper, failure.map Failure.message)

end CanStream.Tool.Payloads
