import JavadocRepair.Text.Digit
import JavadocRepair.Text.Quoted

/-!
# Options

The command line takes the path of a log, and options that may stand anywhere: `-h` or `--help`,
`--matchers` with a value, and `-v` or `--verbose`. A long option may be cut short as long as one
option remains, its value may follow an equals sign, short options may share a dash, and behind
`--` nothing is an option. A lone dash, a negative number and a word with a space are no options
unless they begin like one.
-/

namespace JavadocRepair.CommandLine

/-- The options. -/
inductive Switch where
  | help
  | matchers
  | verbose
  deriving Repr, DecidableEq

/-- The ways to write options, in the order in which they are listed. -/
def spellings : List (String × Switch) :=
  [("-h", .help), ("--help", .help), ("--matchers", .matchers), ("-v", .verbose),
    ("--verbose", .verbose)]

/-- All ways to write an option. -/
def Switch.title (switch : Switch) : String :=
  "/".intercalate ((spellings.filter (·.2 = switch)).map (·.1))

/-- An option that a word names, as it is written in full, and the value that the word holds. -/
structure Mention where
  switch : Switch
  spelling : String
  value : Option String
  deriving Repr, DecidableEq

/-- What is wrong with a command line. -/
inductive UsageFault where
  | ambiguous (word : String) (spellings : List String)
  | valueMissing (switch : Switch)
  | valueUnwanted (switch : Switch) (value : String)
  | logMissing
  | unrecognized (words : List String)
  deriving Repr, DecidableEq

/-- The wording of a fault. -/
def UsageFault.message : UsageFault → String
  | .ambiguous word spellings =>
    s!"ambiguous option: {word} could match " ++ ", ".intercalate spellings
  | .valueMissing switch => s!"argument {switch.title}: expected one argument"
  | .valueUnwanted switch value =>
    s!"argument {switch.title}: ignored explicit argument {Text.quoted value}"
  | .logMissing => "the following arguments are required: log_path"
  | .unrecognized words => "unrecognized arguments: " ++ " ".intercalate words

/-- What a word in front of `--` is. -/
inductive Word where
  | plain
  | mention (mention : Mention)
  | unknown
  deriving Repr, DecidableEq

/-- A word cut at its first equals sign. -/
def cutAtEquals (word : List Char) : String × Option String :=
  match word.span (· != '=') with
  | (name, _ :: value) => (String.ofList name, some (String.ofList value))
  | (name, []) => (String.ofList name, none)

/-- The options of which a word is the beginning. A word with two dashes may have a value behind an
    equals sign; one with a single dash has its value right behind a short option. -/
def candidates (word : List Char) : List Mention :=
  match word with
  | '-' :: '-' :: _ =>
    let (name, value) := cutAtEquals word
    (spellings.filter fun spelling => name.isPrefixOf spelling.1).map fun (spelling, switch) =>
      ⟨switch, spelling, value⟩
  | '-' :: c :: value =>
    (spellings.filter fun spelling => spelling.1 == String.ofList ['-', c]).map
      fun (spelling, switch) => ⟨switch, spelling, some (String.ofList value)⟩
  | _ => []

/-- A decimal digit of any script. -/
def isDigit (c : Char) : Bool :=
  (Text.digitValue? c).isSome

/-- A negative number: digits behind a dash, or a point with digits behind it and perhaps in front.
    A line feed may follow. -/
def isNegativeNumber (word : List Char) : Bool :=
  match word with
  | '-' :: number =>
    let number := if number.getLast? == some '\n' then number.dropLast else number
    match number.span isDigit with
    | (whole, []) => !whole.isEmpty
    | (_, '.' :: fraction) => !fraction.isEmpty && fraction.all isDigit
    | _ => false
  | _ => false

/-- What a word in front of `--` is; a beginning of several options is a fault. -/
def classify (word : String) : Except UsageFault Word :=
  let chars := word.toList
  match chars with
  | '-' :: _ :: _ =>
    match spellings.lookup word with
    | some switch => .ok (.mention ⟨switch, word, none⟩)
    | none =>
      let (name, value) := cutAtEquals chars
      match value, spellings.lookup name with
      | some value, some switch => .ok (.mention ⟨switch, name, some value⟩)
      | _, _ =>
        match candidates chars with
        | [mention] => .ok (.mention mention)
        | [] => .ok (if isNegativeNumber chars || chars.contains ' ' then .plain else .unknown)
        | several => .error (.ambiguous word (several.map (·.spelling)))
  | _ => .ok .plain

/-- The words in front of `--`, each with what it is, and the words from `--` on. -/
def classifyAll : List String → Except UsageFault (List (String × Word) × List String)
  | [] => .ok ([], [])
  | word :: rest =>
    if word = "--" then .ok ([], word :: rest)
    else
      match classify word with
      | .error fault => .error fault
      | .ok kind =>
        match classifyAll rest with
        | .error fault => .error fault
        | .ok (front, back) => .ok ((word, kind) :: front, back)

/-- What a command line asks for. An empty path for matchers asks for none. -/
structure Options where
  log : String
  matchers : String
  verbose : Bool
  deriving Repr, DecidableEq

/-- What has been read of a command line; the words that nothing could take come last one first. -/
structure Progress where
  log : Option String
  matchers : String
  verbose : Bool
  extras : List String

/-- Why there is nothing to run: help was asked for, or the command line is faulty. -/
inductive Stop where
  | help
  | fault (fault : UsageFault)
  deriving Repr, DecidableEq

/-- The options without values that share a dash, of which the first has the others as its value,
    behind those already read. -/
def sharedDash (done : List Switch) (switch : Switch) :
    List Char → Except UsageFault (List Switch)
  | [] => .ok (done ++ [switch])
  | c :: rest =>
    match spellings.lookup (String.ofList ['-', c]) with
    | some next => sharedDash (done ++ [switch]) next rest
    | none => .error (.valueUnwanted switch (String.ofList (c :: rest)))

/-- Carries out options without values. -/
def Progress.turnOn (progress : Progress) : List Switch → Except Stop Progress
  | [] => .ok progress
  | .help :: _ => .error .help
  | .verbose :: rest => turnOn { progress with verbose := true } rest
  | .matchers :: rest => turnOn progress rest

/-- Takes a word that is no option: the first one is the log. -/
def Progress.takePlain (progress : Progress) (word : String) : Progress :=
  match progress.log with
  | none => { progress with log := some word }
  | some _ => { progress with extras := word :: progress.extras }

/-- Takes the words of which none is an option any more. Of these, `--` is dropped where it stands
    next to the log. -/
def Progress.takeBack (progress : Progress) (words : List String) : Progress :=
  match progress.log, words with
  | none, "--" :: word :: rest =>
    { progress with log := some word, extras := rest.reverse ++ progress.extras }
  | _, words => { progress with extras := words.reverse ++ progress.extras }

/-- Reads the words in front of `--`; `back` are those from there on. -/
def Progress.takeFront (progress : Progress) (back : List String) :
    List (String × Word) → Except Stop Progress
  | [] => .ok (progress.takeBack back)
  | (word, .plain) :: rest =>
    match progress.log, rest, back with
    | none, [], _ :: back =>
      .ok { progress with log := some word, extras := back.reverse ++ progress.extras }
    | _, rest, back => (progress.takePlain word).takeFront back rest
  | (word, .unknown) :: rest =>
    takeFront { progress with extras := word :: progress.extras } back rest
  | (_, .mention ⟨.matchers, _, some value⟩) :: rest =>
    takeFront { progress with matchers := value } back rest
  | (_, .mention ⟨.matchers, _, none⟩) :: rest =>
    match rest with
    | (value, .plain) :: rest => takeFront { progress with matchers := value } back rest
    | _ => .error (.fault (.valueMissing .matchers))
  | (_, .mention ⟨switch, spelling, value⟩) :: rest =>
    match value with
    | none =>
      match progress.turnOn [switch] with
      | .error stop => .error stop
      | .ok progress => progress.takeFront back rest
    | some value =>
      if value = "" || (spelling.toList.drop 1).head? == some '-' then
        .error (.fault (.valueUnwanted switch value))
      else
        match sharedDash [] switch value.toList with
        | .error fault => .error (.fault fault)
        | .ok switches =>
          match progress.turnOn switches with
          | .error stop => .error stop
          | .ok progress => progress.takeFront back rest

/-- Reads a command line. -/
def parse (words : List String) : Except Stop Options :=
  match classifyAll words with
  | .error fault => .error (.fault fault)
  | .ok (front, back) =>
    match Progress.takeFront ⟨none, "", false, []⟩ back front with
    | .error stop => .error stop
    | .ok progress =>
      match progress.log, progress.extras with
      | none, _ => .error (.fault .logMissing)
      | some log, [] => .ok ⟨log, progress.matchers, progress.verbose⟩
      | some _, extras => .error (.fault (.unrecognized extras.reverse))

end JavadocRepair.CommandLine
