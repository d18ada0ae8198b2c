import MarkupQuery.Xml.StartTag

/-!
# Content

What stands between start tags and end tags: text, references, comments, instructions, character data
sections and elements. Each step takes at least one character of the unread text.
-/

namespace MarkupQuery.Xml

open MarkupQuery.Text MarkupQuery.Tree

/-! ## Text -/

/-- Whether blank text at the present place is dropped: no text stands directly in the element yet,
and it is not all that the element holds. -/
def Reader.dropsBlank (r : Reader) (s : Chars) : Bool :=
  match r.frames with
  | [] => false
  | f :: _ =>
      if f.blanks == .preserve || f.blanks == .mixed || !s.all isMarkupBlank then false
      else match r.elementKinds.lookup (joinName f.label f.base) with
        | some mixed => !mixed
        | none =>
            match r.input with
            | '<' :: rest =>
                if f.content.isEmpty && rest.head? == some '/' then false
                else !((f.content.head?.any fun n => match n with | .text _ => true | _ => false) ||
                  (f.content.getLast?.any fun n => match n with | .text _ => true | _ => false))
            | '\r' :: _ =>
                !((f.content.head?.any fun n => match n with | .text _ => true | _ => false) ||
                  (f.content.getLast?.any fun n => match n with | .text _ => true | _ => false))
            | _ => false

/-- Delivers a piece of text that ends at the present place. -/
def Reader.deliver (r : Reader) (s : Chars) : Reader :=
  if s.isEmpty then r
  else if r.settings.dropBlanks && r.dropsBlank s then r
  else match r.frames with
    | f :: fs =>
        let f := { f with blanks := if f.blanks == .unseen then .mixed else f.blanks }
        ({ r with frames := f :: fs }).addText s
    | [] => r

/-- A character of plain text that needs no further look. -/
def isPlain (c : Char) : Bool :=
  c == '\t' || c == '\n' || (32 ≤ c.toNat && c.toNat < 128 && c != '<' && c != '&')

/-- The plain text at the start of a text, up to the end of a character data section, and whether it
stops there. -/
def spanPlain : Chars → Chars × Chars × Bool
  | [] => ([], [], false)
  | c :: r =>
      if c == ']' && (after? "]>".toList r).isSome then ([], c :: r, true)
      else if isPlain c then
        let (taken, rest, stopped) := spanPlain r
        (c :: taken, rest, stopped)
      else ([], c :: r, false)

/-- Text with characters beyond the plain ones, up to markup or a character that is not allowed.
The end of a character data section in it is noted. -/
def Reader.mixedText (r : Reader) : Reader :=
  let allowed (c : Char) : Bool := c != '<' && c != '&' && isXmlChar c
  let taken := r.input.takeWhile allowed
  let rest := r.input.dropWhile allowed
  let r := match cutAt "]]>".toList taken with
    | some (before, _) =>
        { ((r.at_ (r.input.drop before.length)).fatal "Sequence ']]>' not allowed in content") with
          input := rest }
    | none => r.at_ rest
  let r := r.deliver (unifyLineEnds taken)
  match rest with
  | [] => r
  | c :: s =>
      if c == '<' || c == '&' then r
      else { r.fatal s!"PCDATA invalid Char value {c.toNat}" with input := s }

/-- Reads text. Plain text goes fast; where it runs into the end of a character data section, it is
lost together with one bracket. -/
def Reader.textFrom : Nat → Reader → Reader
  | 0, r => r
  | fuel + 1, r =>
      let (taken, rest, stopped) := spanPlain r.input
      if stopped then
        { (r.at_ rest).fatal "Sequence ']]>' not allowed in content" with input := rest.drop 1 }
      else
        let r := (r.at_ rest).deliver taken
        match rest with
        | '\r' :: '\n' :: s =>
            if s.head?.any fun c => c == '\t' || c == '\n' || (32 ≤ c.toNat && c.toNat < 128) then
              Reader.textFrom fuel (r.at_ ('\n' :: s))
            else (r.at_ ('\n' :: s)).mixedText
        | [] => r
        | c :: _ => if c == '<' || c == '&' then r else r.mixedText

/-- Reads text. -/
def Reader.plainText (r : Reader) : Reader := Reader.textFrom (r.input.length + 1) r

/-! ## Comments, instructions and sections -/

/-- The first character of a text that XML does not allow, with what precedes it. -/
def badCharacter? (s : Chars) : Option (Chars × Char × Chars) :=
  let good := s.takeWhile isXmlChar
  match s.dropWhile isXmlChar with
  | c :: r => some (good, c, r)
  | [] => none

/-- Whether a comment holds two hyphens in a row, its end counted as one. -/
def holdsHyphens (s : Chars) : Bool := (cutAt "--".toList (s ++ ['-'])).isSome

/-- Reads a comment, the unread text being at its bracket. -/
def Reader.comment (r : Reader) : Reader :=
  let body := r.input.drop 4
  match cutAt "-->".toList body with
  | some (content, rest) =>
      match badCharacter? content with
      | some (good, c, _) =>
          (r.at_ (body.drop good.length)).fatal
            s!"xmlParseComment: invalid xmlChar value {c.toNat}"
      | none =>
          let r := if holdsHyphens content then
              (r.at_ rest).fatal ("Double hyphen within comment: <!--" ++
                String.ofList (content.take 50))
            else r
          (r.at_ rest).addComment (unifyLineEnds content)
  | none =>
      match badCharacter? body with
      | some (good, c, _) =>
          (r.at_ (body.drop good.length)).fatal
            s!"xmlParseComment: invalid xmlChar value {c.toNat}"
      | none =>
          (r.at_ []).fatal ("Comment not terminated \n<!--" ++ String.ofList (body.take 50))

/-- Notes what is wrong with the target of an instruction. -/
def Reader.checkTarget (r : Reader) (target : Chars) : Reader :=
  let r :=
    if (target.take 3).map lowerAsciiLetter == "xml".toList then
      if target == "xml".toList then
        r.fatal "XML declaration allowed only at the start of the document"
      else if target.length == 3 then r.fatal "Invalid PI name"
      else if target == "xml-stylesheet".toList || target == "xml-model".toList then r
      else r.warn "xmlParsePITarget: invalid name prefix 'xml'"
    else r
  if target.contains ':' then
    r.error ("colons are forbidden from PI names '" ++ String.ofList target ++ "'")
  else r
where
  /-- The lower case of an ASCII letter. -/
  lowerAsciiLetter (c : Char) : Char :=
    if 'A' ≤ c && c ≤ 'Z' then Char.ofNat (c.toNat + 32) else c

/-- Reads an instruction, the unread text being at its bracket. -/
def Reader.instruction (r : Reader) : Reader :=
  let (target, rest) := spanName (r.input.drop 2)
  let r := r.at_ rest
  if target.isEmpty then r.fatal "xmlParsePI : no target name"
  else
    let r := r.checkTarget target
    match r.input with
    | '?' :: '>' :: s => (r.at_ s).addInstruction target none
    | _ =>
        let shown := String.ofList target
        let r := if r.atBlank then r.skipBlanks else r.fatal s!"ParsePI: PI {shown} space expected"
        let body := r.input
        match cutAt "?>".toList body with
        | some (data, rest) =>
            match badCharacter? data with
            | some (good, _, _) =>
                (r.at_ (body.drop good.length)).fatal s!"ParsePI: PI {shown} never end ..."
            | none => (r.at_ rest).addInstruction target (some (unifyLineEnds data))
        | none =>
            let good := body.takeWhile isXmlChar
            (r.at_ (body.drop good.length)).fatal s!"ParsePI: PI {shown} never end ..."

/-- Reads a character data section, the unread text being at its bracket. -/
def Reader.section_ (r : Reader) : Reader :=
  let body := r.input.drop 9
  let unfinished (good : Chars) : Reader :=
    (r.at_ (body.drop good.length)).fatal
      ("CData section not finished\n" ++ String.ofList (good.take 50))
  match cutAt "]]>".toList body with
  | none => unfinished (body.takeWhile isXmlChar)
  | some (content, rest) =>
      match badCharacter? content with
      | some (good, _, _) => unfinished good
      | none =>
          let content := unifyLineEnds content
          let r := r.at_ rest
          if r.settings.keepSections then r.add (.section_ content)
          else if content.isEmpty then r else r.addText content

/-! ## Steps -/

/-- Reads one thing of the content of the innermost open element. -/
def Reader.contentStep (r : Reader) : Reader :=
  match r.input with
  | '<' :: '/' :: _ => r.endTag
  | '<' :: '?' :: _ => r.instruction
  | '<' :: '!' :: '-' :: '-' :: _ => r.comment
  | '<' :: '!' :: '[' :: 'C' :: 'D' :: 'A' :: 'T' :: 'A' :: '[' :: _ => r.section_
  | '<' :: _ => r.startTag
  | '&' :: _ => r.contentReference
  | _ => r.plainText

/-- Reads content until the root is closed or nothing is left. -/
def Reader.content : Nat → Reader → Reader
  | 0, r => r
  | fuel + 1, r =>
      if r.halted || r.frames.isEmpty || r.input.isEmpty then r
      else Reader.content fuel r.contentStep

end MarkupQuery.Xml
