import CanStream.Frame.Text
import CanStream.Protocol.Raw
import CanStream.Tool.Outcome

/-!
# The tool for raw frames

Sends the frames given on the command line and prints the frames that are received, one in a line,
behind the name of the interface.
-/

namespace CanStream.Tool.RawFrames

def spec : CommandSpec where
  options :=
    [.text "filter" (some 'f') .values false, .text "err-mask" (some 'e') .value false,
      .switch "fd" none, .switch "own" none, .switch "no-loopback" none,
      ⟨"count", some 'n', .value, false, false, fun s => (count? s).isSome⟩,
      ⟨"timeout", some 't', .value, true, false, fun s => (integer? s).isSome⟩]
  mostWords := none

/-- What goes wrong with the tool. -/
inductive Failure
  | badFrame (text : String) (cause : ParseError)
  | filterForm (text : String)
  | badFilterId (text : String) (cause : NumberError)
  | badFilterMask (text : String) (cause : NumberError)
  | badErrorMask (cause : NumberError)
  | notConnected (iface message : String)
  | frameRefused (f : Frame) (cause : TransferError)
  | notSent (message : String)
  | notRead (message : String)
  deriving DecidableEq

def Failure.message : Failure → String
  | badFrame text cause => because ("Bad frame " ++ quoted text) cause.message
  | filterForm text => "Filter " ++ quoted text ++ " is not in the form ID:MASK"
  | badFilterId text cause => because ("Bad filter ID " ++ quoted text) cause.message
  | badFilterMask text cause => because ("Bad filter mask " ++ quoted text) cause.message
  | badErrorMask cause => because "Bad error mask" cause.message
  | notConnected iface message => because ("Can't connect to " ++ quoted iface) message
  | frameRefused f cause => because ("Can't send frame " ++ quoted f.text) cause.message
  | notSent message => because "Error sending frames" message
  | notRead message => because "Error reading frames" message

def word (s : List Char) : Except NumberError UInt32 :=
  (Number.unsigned 16 0x100000000 s).map UInt32.ofNat

/-- A filter, given as an identifier and a mask with a colon between them. -/
def parseFilter (s : String) : Except Failure Filter :=
  match s.toList.span (· ≠ ':') with
  | (_, []) => .error (.filterForm s)
  | (id, _ :: mask) => do
      let id ← (word id).mapError (.badFilterId (String.ofList id))
      let mask ← (word mask).mapError (.badFilterMask (String.ofList mask))
      pure ⟨id, mask⟩

def parseFrames (texts : List String) : Except Failure (List Frame) :=
  texts.mapM fun s => (Frame.parse s).mapError (.badFrame s)

def options (g : Given) : Except Failure (List Raw.Value) := do
  let filters ← (g.values "filter").mapM parseFilter
  let masks ← (g.value? "err-mask").toList.mapM fun s => (word s.toList).mapError .badErrorMask
  pure ((if g.has "filter" then [.filters filters] else []) ++
    masks.map (fun m => .errorMask (FlagSet.truncate ⟨m⟩)) ++
    [.loopback (!g.has "no-loopback"), .ownMessages (g.has "own"), .fdFrames (g.has "fd")])

abbrev Run : Type → Type := SocketM Raw.protocol

/-- Queues frames, up to the first that is refused. -/
def queueFrames : List Frame → Run (Option Failure)
  | [] => pure none
  | f :: rest => do
      let result : Except TransferError Unit ← Socket.perform (.writeFrame f)
      match result with
      | .ok _ => queueFrames rest
      | .error cause => pure (some (.frameRefused f cause))

def sendFrames (frames : List Frame) (wait : Wait) : Run (Option Failure) := do
  match ← queueFrames frames with
  | some failure => pure (some failure)
  | none => do
      if ← pushOut wait wait.turns then pure none
      else do
        let s ← get
        pure (some (.notSent s.error.message))

def takeFrames : Nat → Run (List Frame)
  | 0 => pure []
  | n + 1 => do
      let result : Except TransferError Frame ← Socket.perform .readFrame
      match result with
      | .error _ => pure []
      | .ok f => do
          let rest ← takeFrames n
          pure (f :: rest)

/-- Takes frames as they come in, until there are `count` of them or nothing comes any more. The
frames that were there before are given, and come first in the result. -/
def dumpFrames (count : Option Nat) (wait : Wait) :
    Nat → List Frame → Run (List Frame × Option Failure)
  | 0, _ => Socket.never
  | rounds + 1, seen => do
      if count.any (· ≤ seen.length) then pure (seen, none)
      else do
        let ready : Bool ← Socket.perform (.waitForReadyRead wait)
        let s ← get
        if ready then do
          let most := s.available / classicUnit
          let frames ← takeFrames (match count with
            | some n => min (n - seen.length) most
            | none => most)
          dumpFrames count wait rounds (seen ++ frames)
        else
          pure (seen, if s.error.kind = .timeout then none else some (.notRead s.error.message))

def line (iface : String) (f : Frame) : String := iface ++ "  " ++ f.text

/-- Connects, sends the frames, and prints what is received, if there are no frames to send or a
number of frames to receive is given. -/
def exchange (iface : String) (values : List Raw.Value) (frames : List Frame) (count : Option Nat)
    (wait : Wait) : Run (List Frame × Option Failure) := do
  let settings := values.map fun v => (v.option, v)
  let connected : Bool ← Socket.perform (.connectWith settings iface OpenMode.readWrite)
  if connected then do
    match ← sendFrames frames wait with
    | some failure => pure ([], some failure)
    | none =>
        if frames.isEmpty || count.isSome then dumpFrames count wait wait.turns []
        else pure ([], none)
  else do
    let s ← get
    pure ([], some (.notConnected iface s.error.message))

/-- What the tool is asked to do. -/
structure Plan where
  iface : String
  frames : List Frame
  options : List Raw.Value
  count : Option Nat
  timeout : Option Int

def plan (g : Given) : Except Failure Plan := do
  let frames ← parseFrames g.words.tail
  let options ← options g
  pure {
    iface := g.words.headD ""
    frames := frames
    options := options
    count := (g.value? "count").bind count?
    timeout := (g.value? "timeout").bind integer? }

def run (words : List String) (e : Endpoint) (elapsed : Nat → Nat) (turns : Nat) :
    Option Outcome :=
  match arguments spec words with
  | .error usage => some (.ofUsage usage e)
  | .ok g =>
      match plan g with
      | .error failure => some (.ofRun [] (some failure.message) e)
      | .ok p =>
          withSocket (P := Raw.protocol) Raw.State.initial e do
            let (frames, failure) ←
              exchange p.iface p.options p.frames p.count (waitOf p.timeout elapsed turns)
            pure (frames.map (line p.iface), failure.map Failure.message)

end CanStream.Tool.RawFrames
