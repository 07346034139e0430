import OnfiFlash.Command.Basic
import OnfiFlash.CommandLine.Reading
import OnfiFlash.Text.Numeral

/-! The command line of the program: options, a verb, and the options of the verb. The options on
verbosity and on the settings file stand before or after the verb; after it they count. -/
namespace OnfiFlash.CommandLine

/-- Options on sessions. They go before the settings file. -/
structure SessionOptions where
  retries? : Option Nat := none
  /-- Zero stands for no bound. -/
  maxPolls? : Option Nat := none
  skipSignature : Bool := false
deriving DecidableEq, Repr

/-- The settings of a session with the options put over them. -/
def SessionOptions.applyTo (options : SessionOptions) (config : SessionConfig) : SessionConfig :=
  { config with
    maxWriteRetries := options.retries?.getD config.maxWriteRetries
    polling := match options.maxPolls? with
      | some 0 => .forever
      | some polls => .atMost polls
      | none => config.polling
    checkSignature := config.checkSignature && !options.skipSignature }

inductive Request where
  | listBridges
  /-- A command for the device that a bridge string leads to. The settings file may tell the index
  page. -/
  | onDevice (bridge : String) (session : SessionOptions) (command : Command (Option Nat))
deriving DecidableEq, Repr

structure Invocation where
  verbosity : Nat := 0
  config? : Option String := none
  request : Request
deriving DecidableEq, Repr

def Invocation.paths (invocation : Invocation) : List String :=
  invocation.config?.toList ++ match invocation.request with
    | .listBridges => []
    | .onDevice _ _ command => command.paths

/-- What the options of a level tell, whatever the verb. -/
structure Choices where
  verbosity? : Option Nat := none
  config? : Option String := none
  bridge? : Option String := none
  session : SessionOptions := {}
  page? : Option Nat := none
  block? : Option Nat := none
  indexPage? : Option Nat := none
  input? : Option String := none
  output? : Option String := none
deriving DecidableEq, Repr

/-- A value read in some way and then put in place. -/
def storing (read : String → Except ValueFault α) (put : α → Choices → Choices) : Store Choices :=
  fun text choices => (read text).map fun value => put value choices

def readText (text : String) : Except ValueFault String := .ok text

/-- The name of a file, which is not empty. -/
def readPath (text : String) : Except ValueFault String :=
  if text.isEmpty then .error .empty else .ok text

/-- A numeral below 2^32, without white space around it. -/
def readNumber (text : String) : Except ValueFault Nat :=
  (readNumeral limit32 text.toList).mapError fun e => .unreadable <| match e.radix with
    | .hexadecimal => "Invalid hex value: " ++ e.cause.text
    | .decimal => "Invalid number: " ++ e.cause.text

/-- A decimal number below 2^32. Numbers beyond the range are told from what is no number, up
to 64 bits. -/
def readAmount (text : String) : Except ValueFault Nat :=
  let last := limit32 - 1
  match readSigned limit63 text.toList with
  | .error e => .error (.unreadable e.text)
  | .ok amount =>
    if 0 ≤ amount ∧ amount.toNat ≤ last then .ok amount.toNat
    else .error (.unreadable s!"{amount} is not in 0..={last}")

def maxVerbosity : Nat := 255

def verboseOption : Opt Choices where
  long := "verbose"
  short? := some 'v'
  about := "Verbosity level (-v, -vv)"
  effect := .count fun choices =>
    { choices with verbosity? := some (min maxVerbosity (choices.verbosity?.getD 0 + 1)) }

def configOption : Opt Choices where
  long := "config"
  about := "Configuration file (TOML format)"
  effect := .value "CONFIG" <| storing readPath fun path choices =>
    { choices with config? := some path }

def helpOption : Opt Choices where
  long := "help"
  short? := some 'h'
  about := "Print help"
  effect := .help

def versionOption : Opt Choices where
  long := "version"
  short? := some 'V'
  about := "Print version"
  effect := .version

def bridgeOption : Opt Choices where
  long := "bridge"
  short? := some 'b'
  about := "Bridge to use, e.g. usb, usb:vid=0x09fb,pid=0x6001, dummy:blocks=256,bad=3+9 "
    ++ "(see list-bridges) [default: usb]"
  effect := .value "BRIDGE" <| storing readText fun bridge choices =>
    { choices with bridge? := some bridge }

def retriesOption : Opt Choices where
  long := "retries"
  about := "Attempts per page before a write is abandoned"
  effect := .value "RETRIES" <| storing readAmount fun retries choices =>
    { choices with session := { choices.session with retries? := some retries } }

def maxPollsOption : Opt Choices where
  long := "max-polls"
  about := "Status polls before giving up on a busy device (0 polls forever)"
  effect := .value "MAX_POLLS" <| storing readNumber fun polls choices =>
    { choices with session := { choices.session with maxPolls? := some polls } }

def noOnfiCheckOption : Opt Choices where
  long := "no-onfi-check"
  about := "Skip the ONFI signature check when opening the device"
  effect := .flag fun choices =>
    { choices with session := { choices.session with skipSignature := true } }

def pageOption : Opt Choices where
  long := "page"
  short? := some 'p'
  about := "Page number (hex with 0x prefix or decimal)"
  required := true
  effect := .value "PAGE" <| storing readNumber fun page choices =>
    { choices with page? := some page }

def blockOption : Opt Choices where
  long := "block"
  about := "Block number (hex with 0x prefix or decimal)"
  required := true
  effect := .value "BLOCK" <| storing readNumber fun block choices =>
    { choices with block? := some block }

def indexPageOption : Opt Choices where
  long := "index-page"
  about := "Page holding the block list (default from config, else 0)"
  effect := .value "INDEX_PAGE" <| storing readNumber fun page choices =>
    { choices with indexPage? := some page }

def inputOption : Opt Choices where
  long := "input"
  short? := some 'i'
  about := "Input file path"
  required := true
  effect := .value "INPUT" <| storing readPath fun path choices =>
    { choices with input? := some path }

def outputOption : Opt Choices where
  long := "output"
  short? := some 'o'
  about := "Output file path"
  required := true
  effect := .value "OUTPUT" <| storing readPath fun path choices =>
    { choices with output? := some path }

def sessionOptions : List (Opt Choices) := [retriesOption, maxPollsOption, noOnfiCheckOption]

/-- The options of a verb that only some verbs have. -/
def Verb.ownOptions : Verb → List (Opt Choices)
  | info | scan => bridgeOption :: sessionOptions
  | readPage =>
    let output : Opt Choices := { outputOption with
      about := "Output file path (hex dump to stdout if omitted)"
      required := false }
    [bridgeOption, pageOption, output] ++ sessionOptions
  | readImage => [bridgeOption, outputOption, indexPageOption] ++ sessionOptions
  | writeImage => [bridgeOption, inputOption, indexPageOption] ++ sessionOptions
  | writeBlock => [bridgeOption, blockOption, inputOption] ++ sessionOptions
  | listBridges => []

def Verb.level (verb : Verb) : Level Choices where
  verb? := some verb
  options := verb.ownOptions ++ [verboseOption, configOption, helpOption]

def topLevel : Level Choices where
  options := [verboseOption, configOption, helpOption, versionOption]
  words := Verb.words

def demand (option : Opt Choices) : Option α → Except Stop α
  | some choice => .ok choice
  | none => .error (.optionMissing option.long)

def Verb.request (verb : Verb) (choices : Choices) : Except Stop Request := do
  let onDevice (command : Command (Option Nat)) : Request :=
    .onDevice (choices.bridge?.getD "usb") choices.session command
  match verb with
  | listBridges => return .listBridges
  | info => return onDevice .info
  | scan => return onDevice .scan
  | readPage =>
    let page ← demand pageOption choices.page?
    return onDevice (.readPage page choices.output?)
  | readImage =>
    let output ← demand outputOption choices.output?
    return onDevice (.readImage choices.indexPage? output)
  | writeImage =>
    let input ← demand inputOption choices.input?
    return onDevice (.writeImage choices.indexPage? input)
  | writeBlock =>
    let block ← demand blockOption choices.block?
    let input ← demand inputOption choices.input?
    return onDevice (.writeBlock block input)

/-- What the words after the help verb ask for: help on one verb, on help itself, or on all. -/
def helpOn : List String → Stop
  | [] => .help none
  | [word] =>
    match Verb.ofName? word with
    | some verb => .help (some verb)
    | none => if word = Verb.helpName then .help none else .verbUnknown word
  | word :: next :: _ => .verbUnknown (if Verb.words.contains word then next else word)

/-- Read the options after a verb. What precedes the verb is checked last. -/
def readVerb (verb : Verb) (arguments : List String) (before : Reading Choices) :
    Except Stop Invocation := do
  let (after, _) ← verb.level.readArguments arguments { gathered := {} }
  let own := (← after.settle).gathered
  let request ← verb.request own
  let shared := (← before.settle).gathered
  return {
    verbosity := (own.verbosity? <|> shared.verbosity?).getD 0
    config? := own.config? <|> shared.config?
    request }

/-- Read a command line, without the name of the program. -/
def Invocation.parse (arguments : List String) : Except Stop Invocation := do
  let (before, word?) ← topLevel.readArguments arguments { gathered := {} }
  match word? with
  | none =>
    let before ← before.settle
    throw (if before.met.isEmpty then .nothingGiven else .verbMissing)
  | some (word, rest) =>
    match Verb.ofName? word with
    | some verb => readVerb verb rest before
    | none => throw (helpOn rest)

end OnfiFlash.CommandLine
