import MarkupQuery.Text.Quoted
import MarkupQuery.Number.Integer

/-!
# Arguments of commands

The words of a command line are matched against the arguments that a command takes. Arguments with flags
may stand anywhere, with their value in the next word or attached; a flag may be cut short as long as it
is the only one of its kind. All other words go to the arguments without flags, in order. Main statement:
the words that are given out to arguments without flags are no more than there are.
-/

namespace MarkupQuery.Command

open MarkupQuery.Text

/-! ## What a command takes -/

/-- What follows an argument. -/
inductive Takes where
  /-- Nothing: the flag says it all. -/
  | nothing
  /-- One word. -/
  | word
  /-- One word and everything after it. -/
  | rest
  deriving DecidableEq, Repr

/-- An argument of a command. -/
structure Argument where
  name : String
  /-- The words that announce it; without any it is told by its place. -/
  flags : List String := []
  takes : Takes := .word
  /-- The words that may be given; any if there are none. -/
  choices : List String := []
  /-- Whether the word has to be an integer. -/
  isInteger : Bool := false
  required : Bool := false
  deriving DecidableEq, Repr

/-- The arguments that a command takes. -/
abbrev Grammar := List Argument

/-- How an argument is called in messages. -/
def Argument.shown (a : Argument) : String :=
  if a.flags.isEmpty then a.name else String.intercalate "/" a.flags

/-- An argument that was given: its name and the words for it. -/
structure Given where
  name : String
  words : List String
  deriving DecidableEq, Repr

/-- Why words are refused, or that help was asked for. -/
inductive Refusal where
  | wrong (message : String)
  | help
  deriving DecidableEq, Repr

/-! ## Flags -/

/-- A word that announces an argument. -/
structure Flag where
  /-- The argument, if any has the flag. -/
  argument : Option Argument
  flag : String
  /-- What is attached to the flag. -/
  attached : Option String

/-- All flags with their arguments, in order. -/
def Grammar.flags (g : Grammar) : List (String × Argument) :=
  g.flatMap fun a => a.flags.map fun f => (f, a)

/-- The parts of a word before and after its first equals sign. -/
def cutAtEquals? (w : String) : Option (String × String) :=
  let s := w.toList
  let before := s.takeWhile (· != '=')
  if before.length == s.length then none
  else some (String.ofList before, String.ofList (s.drop (before.length + 1)))

/-- The flags that a word may stand for. Long flags may be cut short, and a value may be attached to a
short one. -/
def Grammar.candidates (g : Grammar) (w : String) : List Flag :=
  if w.toList.take 2 == ['-', '-'] then
    let (start, attached) := match cutAtEquals? w with
      | some (a, b) => (a, some b)
      | none => (w, none)
    g.flags.filterMap fun (f, a) => if f.startsWith start then some ⟨some a, f, attached⟩ else none
  else
    let short := String.ofList (w.toList.take 2)
    g.flags.filterMap fun (f, a) =>
      if f == short then some ⟨some a, f, some (String.ofList (w.toList.drop 2))⟩
      else if f.startsWith w then some ⟨some a, f, none⟩
      else none

/-- Whether a word is a negative number. -/
def isNegativeNumber (w : String) : Bool :=
  match w.toList with
  | '-' :: r =>
      let whole := r.takeWhile isDecimal
      let rest := r.drop whole.length
      (!whole.isEmpty && rest.isEmpty) ||
        (match rest with
          | '.' :: q => !q.isEmpty && q.all isDecimal
          | _ => false)
  | _ => false

/-- What a word announces; nothing if it is an ordinary word. -/
def Grammar.flagOf (g : Grammar) (w : String) : Except Refusal (Option Flag) :=
  if w.toList.head? != some '-' then .ok none
  else match g.flags.lookup w with
    | some a => .ok (some ⟨some a, w, none⟩)
    | none =>
        if w.length == 1 then .ok none
        else
          let exact := (cutAtEquals? w).bind fun (f, v) =>
            (g.flags.lookup f).map fun a => (⟨some a, f, some v⟩ : Flag)
          match exact, g.candidates w with
          | some f, _ => .ok (some f)
          | none, [f] => .ok (some f)
          | none, f :: fs =>
              let names := String.intercalate ", " ((f :: fs).map (·.flag))
              .error (.wrong s!"ambiguous option: {w} could match {names}")
          | none, [] =>
              if isNegativeNumber w || w.toList.contains ' ' then .ok none
              else .ok (some ⟨none, w, none⟩)

/-! ## Words -/

/-- What a word on the command line is. -/
inductive Word where
  | plain (text : String)
  /-- Two hyphens: only plain words follow. -/
  | separator
  | flag (text : String) (f : Flag)

/-- The text of a word. -/
def Word.text : Word → String
  | .plain t => t
  | .separator => "--"
  | .flag t _ => t

/-- What the words of a command line are. -/
def Grammar.classify (g : Grammar) : List String → Except Refusal (List Word)
  | [] => .ok []
  | w :: ws =>
      if w == "--" then .ok (.separator :: ws.map .plain)
      else do
        let f ← g.flagOf w
        let rest ← g.classify ws
        return (match f with
          | some f => .flag w f
          | none => .plain w) :: rest

/-- How many separators stand first. -/
def separators : List Word → Nat
  | .separator :: ws => separators ws + 1
  | _ => 0

/-- How many words an argument without flags takes, separators around its word included. -/
def Takes.count (t : Takes) (ws : List Word) : Option Nat :=
  let before := separators ws
  match t, ws.drop before with
  | .word, .plain _ :: r => some (before + 1 + separators r)
  | .rest, .plain _ :: r => some (before + 1 + r.length)
  | _, _ => none

/-- The arguments without flags that can be served now, each with its words, and the words after them. -/
def serve : List Argument → List Word → List (Argument × List Word) × List Word
  | [], ws => ([], ws)
  | a :: as, ws =>
      match a.takes.count ws with
      | none => ([], ws)
      | some n =>
          let (served, rest) := serve as (ws.drop n)
          ((a, ws.take n) :: served, rest)

/-- No more arguments are served than there are. -/
theorem length_serve_le (as : List Argument) (ws : List Word) :
    (serve as ws).1.length ≤ as.length := by
  induction as generalizing ws with
  | nil => simp [serve]
  | cons a as ih =>
    unfold serve
    split
    · simp
    · simpa using ih _

/-! ## Matching -/

/-- A message about an argument. -/
def Argument.refuse {α : Type} (a : Argument) (message : String) : Except Refusal α :=
  .error (.wrong s!"argument {a.shown}: {message}")

/-- Refuses a word that is none of the choices. -/
def Argument.check (a : Argument) (w : String) : Except Refusal Unit :=
  if a.isInteger && (Number.readInt? w.toList).isNone then
    a.refuse s!"invalid int value: {quotedString w}"
  else if a.choices.isEmpty || a.choices.contains w then .ok ()
  else
    let choices := String.intercalate ", " (a.choices.map quotedString)
    a.refuse s!"invalid choice: {quotedString w} (choose from {choices})"

/-- Takes the words for an argument. The first separator among them does not count, unless everything is
taken. Of several words the first is checked. -/
def Argument.take (a : Argument) (words : List String) : Except Refusal (List Given) :=
  match a.takes with
  | .nothing => if a.name == "help" then .error .help else .ok [⟨a.name, []⟩]
  | .word =>
      match words.erase "--" with
      | w :: _ => do
          a.check w
          return [⟨a.name, [w]⟩]
      | [] => .ok []
  | .rest => do
      a.check (words.headD "")
      return [⟨a.name, words⟩]

/-- What was found so far. -/
structure Matched where
  given : List Given := []
  /-- The names of the arguments that were met. -/
  met : List String := []
  /-- Words that belong to no argument. -/
  extras : List String := []

/-- Adds an argument that was met. -/
def Matched.meet (m : Matched) (a : Argument) (words : List String) : Except Refusal Matched := do
  let given ← a.take words
  return { m with given := m.given ++ given, met := m.met ++ [a.name] }

/-- The arguments that the word of a flag announces, each with its words, and the words that are left. A
value is attached to the flag or follows it; short flags without values may be joined in one word. -/
def Grammar.announced (g : Grammar) : Nat → Argument → String → Option String → List Word →
    Except Refusal (List (Argument × List String) × List Word)
  | 0, _, _, _, ws => .ok ([], ws)
  | fuel + 1, a, flag, attached, ws =>
      match a.takes, attached with
      | .nothing, none => .ok ([(a, [])], ws)
      | .nothing, some v =>
          let ignored := a.refuse s!"ignored explicit argument {quotedString v}"
          match flag.toList, v.toList with
          | dash :: c :: _, x :: r =>
              let next := String.ofList [dash, x]
              match c == '-', g.flags.lookup next with
              | false, some b => do
                  let more := if r.isEmpty then none else some (String.ofList r)
                  let (others, ws) ← g.announced fuel b next more ws
                  return ((a, []) :: others, ws)
              | _, _ => ignored
          | _, _ => ignored
      | _, some v => .ok ([(a, [v])], ws)
      | _, none =>
          match ws with
          | .plain w :: r => .ok ([(a, [w])], r)
          | _ => a.refuse "expected one argument"

/-- Meets several arguments in turn. -/
def Matched.meetAll (m : Matched) : List (Argument × List String) → Except Refusal Matched
  | [] => .ok m
  | (a, ws) :: rest => do (← m.meet a ws).meetAll rest

/-- Meets the arguments that were served. -/
def Matched.serveAll (m : Matched) (served : List (Argument × List Word)) : Except Refusal Matched :=
  m.meetAll (served.map fun s => (s.1, s.2.map Word.text))

/-- Whether a word is a flag. -/
def Word.isFlag : Word → Bool
  | .flag .. => true
  | _ => false

/-- Matches words against the arguments without flags that are left and against all flags. -/
def Grammar.matchWords (g : Grammar) : Nat → List Argument → List Word → Matched →
    Except Refusal Matched
  | 0, _, _, m => .ok m
  | fuel + 1, places, ws, m =>
      if !ws.any Word.isFlag then do
        let (served, rest) := serve places ws
        let m ← m.serveAll served
        return { m with extras := m.extras ++ rest.map Word.text }
      else match ws with
        | .flag t f :: r =>
            match f.argument with
            | none => g.matchWords fuel places r { m with extras := m.extras ++ [t] }
            | some a => do
                let (announced, r) ← g.announced (t.length + 1) a f.flag f.attached r
                g.matchWords fuel places r (← m.meetAll announced)
        | _ =>
            let (served, rest) := serve places ws
            if served.isEmpty then
              let before := ws.takeWhile fun w => !w.isFlag
              g.matchWords fuel places (ws.drop before.length)
                { m with extras := m.extras ++ before.map Word.text }
            else do
              let m ← m.serveAll served
              g.matchWords fuel (places.drop served.length) rest m

/-- The arguments that words give, and the words that belong to none; every argument that is required has
to be among them. -/
def Grammar.read (g : Grammar) (words : List String) : Except Refusal Matched := do
  let ws ← g.classify words
  let places := g.filter fun a => a.flags.isEmpty
  let m ← g.matchWords (2 * ws.length + 2) places ws {}
  let missing := g.filter fun a => a.required && !m.met.contains a.name
  if missing.isEmpty then return m
  else
    let names := String.intercalate ", " (missing.map Argument.shown)
    throw (.wrong s!"the following arguments are required: {names}")

/-- The last word that was given for an argument. -/
def lastWord? (given : List Given) (name : String) : Option String :=
  ((given.filter (·.name == name)).getLast?).bind fun g => g.words.head?

/-- All words that were given for an argument. -/
def allWords (given : List Given) (name : String) : List String :=
  (given.filter (·.name == name)).flatMap (·.words)

end MarkupQuery.Command
