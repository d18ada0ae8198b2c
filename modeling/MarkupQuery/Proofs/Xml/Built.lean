import MarkupQuery.Xml.Prolog
import MarkupQuery.Proofs.Xml.Opening

/-!
# What reading leaves alone

Most of what a reader does skips text, notes what is wrong or looks up declarations: what it has built so
far, the open elements and the finished nodes, stays the same (`Reader.built`). Only adding nodes and text,
opening and closing elements change it. What looks up names and checks attributes changes nothing at all but
what is noted (`Reader.unnoted`).
-/

namespace MarkupQuery.Xml

open MarkupQuery.Text MarkupQuery.Tree

variable {r r' : Reader}

/-! ## Small steps -/

/-- What a reader has built, and how it is told to build. -/
def Reader.built (r : Reader) : Settings × List Frame × List Node := (r.settings, r.frames, r.top)

/-- A reader, but for what it noted. -/
def Reader.unnoted (r : Reader) : Reader := { r with wellFormed := true, notices := [] }

@[simp, grind =] theorem Reader.unnoted_note (r : Reader) (severity : Severity) (message : String) :
    (r.note severity message).unnoted = r.unnoted := rfl

@[simp, grind =] theorem Reader.unnoted_error (r : Reader) (message : String) :
    (r.error message).unnoted = r.unnoted := rfl

@[simp, grind =] theorem Reader.unnoted_warn (r : Reader) (message : String) :
    (r.warn message).unnoted = r.unnoted := rfl

@[simp, grind =] theorem Reader.unnoted_fatal (r : Reader) (message : String) :
    (r.fatal message).unnoted = r.unnoted := rfl

theorem Reader.built_of_unnoted (h : r'.unnoted = r.unnoted) : r'.built = r.built := by
  have hbuilt : r'.unnoted.built = r.unnoted.built := congrArg Reader.built h
  exact hbuilt

@[simp, grind =] theorem Reader.built_at (r : Reader) (s : Chars) : (r.at_ s).built = r.built := rfl

@[simp, grind =] theorem Reader.built_note (r : Reader) (severity : Severity) (message : String) :
    (r.note severity message).built = r.built := rfl

@[simp, grind =] theorem Reader.built_error (r : Reader) (message : String) :
    (r.error message).built = r.built := rfl

@[simp, grind =] theorem Reader.built_warn (r : Reader) (message : String) :
    (r.warn message).built = r.built := rfl

@[simp, grind =] theorem Reader.built_fatal (r : Reader) (message : String) :
    (r.fatal message).built = r.built := rfl

@[simp, grind =] theorem Reader.built_skipBlanks (r : Reader) : r.skipBlanks.built = r.built := rfl

/-! ## References -/

@[grind →] theorem Reader.built_of_characterReference {c : Option Char}
    (h : r.characterReference = (r', c)) : r'.built = r.built := by
  unfold Reader.characterReference at h
  grind

@[grind →] theorem Reader.built_of_entityName {name : Option Chars}
    (h : r.entityName = (r', name)) : r'.built = r.built := by
  unfold Reader.entityName at h
  grind

theorem Reader.unnoted_of_meaning {name : Chars} {m : Meaning} (h : r.meaning name = (r', m)) :
    r'.unnoted = r.unnoted := by
  unfold Reader.meaning at h
  grind

@[grind →] theorem Reader.built_of_meaning {name : Chars} {m : Meaning}
    (h : r.meaning name = (r', m)) : r'.built = r.built :=
  Reader.built_of_unnoted (Reader.unnoted_of_meaning h)

/-! ## Attributes -/

theorem Reader.unnoted_complain (r : Reader) (n : WrittenName) : (r.complain n).unnoted = r.unnoted := by
  unfold Reader.complain
  grind

@[simp, grind =] theorem Reader.built_complain (r : Reader) (n : WrittenName) :
    (r.complain n).built = r.built := Reader.built_of_unnoted (r.unnoted_complain n)

@[simp, grind =] theorem Reader.built_afterName (r : Reader) (w : WrittenName) :
    (r.afterName w).built = r.built := by
  simp [Reader.afterName]

@[grind →] theorem Reader.built_of_valueFrom {quote : Char} {fuel : Nat} {acc : Chars}
    {parts : List ValuePart} {found : Option (List ValuePart)}
    (h : Reader.valueFrom quote fuel r acc parts = (r', found)) : r'.built = r.built := by
  induction fuel generalizing r acc parts with
  | zero => grind [Reader.valueFrom]
  | succ fuel ih =>
    unfold Reader.valueFrom at h
    grind

@[grind →] theorem Reader.built_of_attributeValue {found : Option (List ValuePart)}
    (h : r.attributeValue = (r', found)) : r'.built = r.built := by
  unfold Reader.attributeValue at h
  grind

@[grind →] theorem Reader.unnoted_of_checkDefault {space : Chars} {ok : Bool}
    (h : r.checkDefault space = (r', ok)) : r'.unnoted = r.unnoted := by
  unfold Reader.checkDefault at h
  grind

@[grind →] theorem Reader.unnoted_of_checkPrefixed {label space : Chars} {ok : Bool}
    (h : r.checkPrefixed label space = (r', ok)) : r'.unnoted = r.unnoted := by
  unfold Reader.checkPrefixed at h
  grind

theorem Reader.unnoted_of_tagItem {items items' : TagItems} {name : WrittenName} {parts : List ValuePart}
    (h : r.tagItem items name parts = (r', items')) : r'.unnoted = r.unnoted := by
  unfold Reader.tagItem at h
  extract_lets value declare at h
  have hdeclare (r : Reader) (label : Option Chars) : (declare r label).1.unnoted = r.unnoted := by
    simp only [declare]
    split <;> rfl
  clear_value value declare
  grind

@[grind →] theorem Reader.built_of_tagItem {items items' : TagItems} {name : WrittenName}
    {parts : List ValuePart} (h : r.tagItem items name parts = (r', items')) :
    r'.built = r.built := Reader.built_of_unnoted (Reader.unnoted_of_tagItem h)

theorem Reader.ReadsPiece.built {a b : Reader × TagItems} (h : Reader.ReadsPiece a b) :
    b.1.built = a.1.built := by
  cases h with
  | blanks r items => exact r.built_skipBlanks
  | fatal r items message => rfl
  | @name r items w _ => exact r.built_afterName w
  | unread items _ hvalue =>
    have hread := Reader.built_of_attributeValue hvalue
    exact hread
  | item items _ _ hvalue _ =>
    have hread := Reader.built_of_attributeValue hvalue
    exact (Reader.built_of_tagItem (Prod.eta _).symm).trans hread

@[grind →] theorem Reader.built_of_attributesFrom {element : Chars} {fuel : Nat}
    {items items' : TagItems} (h : Reader.attributesFrom element fuel r items = (r', items')) :
    r'.built = r.built := by
  have hall {a b : Reader × TagItems} (h : Relation.ReflTransGen Reader.ReadsPiece a b) :
      b.1.built = a.1.built := by
    induction h with
    | refl => rfl
    | tail _ hpiece ih => exact hpiece.built.trans ih
  have hread := hall (Reader.reads_attributesFrom element fuel r items)
  rwa [h] at hread

/-! ## Names -/

@[grind →] theorem Reader.unnoted_of_attributeName {scope : List Declaration} {element base : Chars}
    {label : Option Chars} {n : Name} (h : r.attributeName scope element label base = (r', n)) :
    r'.unnoted = r.unnoted := by
  unfold Reader.attributeName at h
  grind

theorem Reader.unnoted_of_nameAttributes {scope : List Declaration} {element : Chars}
    {items : List (Option Chars × Chars × List ValuePart)} {as : List Attribute}
    (h : Reader.nameAttributes scope element items r = (r', as)) : r'.unnoted = r.unnoted := by
  induction items generalizing r as with
  | nil => grind [Reader.nameAttributes]
  | cons item items ih =>
    unfold Reader.nameAttributes at h
    grind

@[grind →] theorem Reader.built_of_nameAttributes {scope : List Declaration} {element : Chars}
    {items : List (Option Chars × Chars × List ValuePart)} {as : List Attribute}
    (h : Reader.nameAttributes scope element items r = (r', as)) : r'.built = r.built :=
  Reader.built_of_unnoted (Reader.unnoted_of_nameAttributes h)

theorem Reader.unnoted_checkDistinct (as : List Attribute) (seen : List Name) (r : Reader) :
    (Reader.checkDistinct as seen r).unnoted = r.unnoted := by
  induction as generalizing seen r with
  | nil => rfl
  | cons a as ih =>
    unfold Reader.checkDistinct
    grind

@[simp, grind =] theorem Reader.built_checkDistinct (as : List Attribute) (seen : List Name)
    (r : Reader) : (Reader.checkDistinct as seen r).built = r.built :=
  Reader.built_of_unnoted (Reader.unnoted_checkDistinct as seen r)

theorem Reader.unnoted_of_elementName {scope : List Declaration} {label : Option Chars}
    {base : Chars} {n : Name} (h : r.elementName scope label base = (r', n)) :
    r'.unnoted = r.unnoted := by
  unfold Reader.elementName at h
  grind

@[grind →] theorem Reader.built_of_elementName {scope : List Declaration} {label : Option Chars}
    {base : Chars} {n : Name} (h : r.elementName scope label base = (r', n)) :
    r'.built = r.built := Reader.built_of_unnoted (Reader.unnoted_of_elementName h)

/-! ## Instructions -/

theorem Reader.unnoted_checkTarget (r : Reader) (target : Chars) :
    (r.checkTarget target).unnoted = r.unnoted := by
  unfold Reader.checkTarget
  grind

@[simp, grind =] theorem Reader.built_checkTarget (r : Reader) (target : Chars) :
    (r.checkTarget target).built = r.built := Reader.built_of_unnoted (r.unnoted_checkTarget target)

/-! ## Prologs -/

@[grind →] theorem Reader.built_of_setting {span : Chars → Chars × Chars} {v : Option Chars}
    (h : r.setting span = (r', v)) : r'.built = r.built := by
  unfold Reader.setting at h
  dsimp only at h
  repeat' split at h
  all_goals cases h; simp

@[simp, grind =] theorem Reader.built_version (r : Reader) : r.version.built = r.built := by
  unfold Reader.version
  grind

@[grind →] theorem Reader.built_of_encoding {named : Bool} (h : r.encoding = (r', named)) :
    r'.built = r.built := by
  unfold Reader.encoding at h
  grind

@[simp, grind =] theorem Reader.built_alone (r : Reader) : r.alone.built = r.built := by
  have hstands (r₁ : Reader) : ({ r₁ with standsAlone := true } : Reader).built = r₁.built := rfl
  unfold Reader.alone
  grind

@[simp, grind =] theorem Reader.built_declarationEnd (r : Reader) :
    r.declarationEnd.built = r.built := by
  unfold Reader.declarationEnd
  grind

@[simp, grind =] theorem Reader.built_versionDeclaration (r : Reader) :
    r.versionDeclaration.built = r.built := by
  unfold Reader.versionDeclaration
  grind

@[grind →] theorem Reader.built_of_literal {missing : String} {v : Option Chars}
    (h : r.literal missing = (r', v)) : r'.built = r.built := by
  unfold Reader.literal at h
  grind

@[grind →] theorem Reader.built_of_outside {needsAddress told : Bool}
    (h : r.outside needsAddress = (r', told)) : r'.built = r.built := by
  unfold Reader.outside at h
  grind

@[simp, grind =] theorem Reader.built_declareEntity (r : Reader) (name : Chars) (e : Entity) :
    (r.declareEntity name e).built = r.built := by
  unfold Reader.declareEntity
  split <;> rfl

@[simp, grind =] theorem Reader.built_entityDeclaration (r : Reader) :
    r.entityDeclaration.built = r.built := by
  unfold Reader.entityDeclaration
  extract_lets r₁
  have h₁ : r₁.built = r.built := by grind
  clear_value r₁
  split
  next isParameter r₂ h₂ =>
  have h₂ : r₂.built = r₁.built := by grind
  rw [← h₁, ← h₂]
  clear h₁
  split
  next name rest _ =>
  extract_lets r₃ finish
  have h₃ : r₃.built = r₂.built := rfl
  have hfinish (r : Reader) : (finish r).built = r.built := by grind
  clear_value r₃ finish
  split
  · grind
  next r₄ r₅ _ =>
  have h₅ : r₅.built = r₂.built := by grind
  clear_value r₅
  split
  · grind
  split
  next r₆ told h₆ =>
  extract_lets r₇ r₈ r₉
  have h₉ : r₉.built = r₂.built := by grind
  grind

@[simp, grind =] theorem Reader.built_elementDeclaration (r : Reader) :
    r.elementDeclaration.built = r.built := by
  unfold Reader.elementDeclaration
  dsimp only
  split
  · split <;> rfl
  · rfl

@[simp, grind =] theorem Reader.built_attributeDeclarations (element : Chars) (fuel : Nat)
    (r : Reader) : (Reader.attributeDeclarations element fuel r).built = r.built := by
  induction fuel generalizing r with
  | zero => rfl
  | succ fuel ih =>
    rw [Reader.attributeDeclarations]
    extract_lets quoted
    have hquoted {r r' : Reader} {v : Option Chars} (h : quoted r = (r', v)) :
        r'.built = r.built := by grind
    clear_value quoted
    rw [← r.built_skipBlanks]
    generalize r.skipBlanks = r₁
    split
    · rfl
    · rfl
    split
    next name rest _ =>
    split
    · rfl
    extract_lets r₂
    have h₂ : r₂.built = r₁.built := rfl
    rw [← h₂]
    clear_value r₂
    clear h₂
    split
    next tokens r₃ htokens =>
    have h₃ : r₃.built = r₂.built := by
      clear ih hquoted
      repeat' split at htokens
      all_goals cases htokens; rfl
    extract_lets r₄
    have h₄ : r₄.built = r₂.built := h₃
    clear_value r₄
    split
    next r₅ value hvalue =>
    have h₅ : r₅.built = r₂.built := by
      rw [← h₄]
      split at hvalue
      · split at hvalue
        next word rest _ =>
        dsimp only at hvalue
        split at hvalue
        · rw [hquoted hvalue]
          rfl
        · cases hvalue
          rfl
      · exact hquoted hvalue
    extract_lets known r₆ r₇
    have h₆ : r₆.built = r₅.built := by
      simp only [r₆]
      clear_value known
      cases value with
      | none => rfl
      | some v =>
        cases known with
        | true => rfl
        | false =>
          dsimp only
          split
          · rfl
          · split <;> rfl
    clear_value r₆
    have h₇ : r₇.built = r₆.built := by
      simp only [r₇]
      split <;> rfl
    rw [ih, h₇, h₆, h₅]

end MarkupQuery.Xml
