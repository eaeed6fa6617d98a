import Shorthand.Posix.Words
/-!
The grammar of scripts: tokens and the commands that they make. Commands hold lists of commands, so
the reader of a list is given the readers of what is one level deeper.
-/
set_option autoImplicit false

namespace Shorthand.Posix

inductive ListKind where
  | line
  | some_
  | any_
  deriving DecidableEq

structure Looks where
  skipsNewlines : Bool := false
  findsKeywords : Bool := false
  findsAliases : Bool := false

structure Readers where
  list : ListKind → Parser (Option Command)
  command : Looks → Parser Command

namespace Looks

def start : Looks := { findsKeywords := true, findsAliases := true }

def anywhere : Looks := { start with skipsNewlines := true }

def case_ : Looks := { skipsNewlines := true, findsKeywords := true }

end Looks

def keywords : List String :=
  ["!", "case", "do", "done", "elif", "else", "esac", "fi", "for", "if", "in", "then", "until",
    "while", "\x7b", "\x7d"]

def specialCommands : List String :=
  [".", ":", "break", "continue", "eval", "exec", "exit", "export", "readonly", "return", "set",
    "shift", "times", "trap", "unset"]

def isName (s : String) : Bool :=
  match s.toList with
  | [] => false
  | c :: r => Parser.isNameStart c && r.all Parser.isNamePart

def Word.isSetting (w : Word) : Bool :=
  isName (.ofList ((w.takeWhile fun p => p.bare?.any (· ≠ '=')).filterMap Piece.bare?)) &&
    (w.find? fun p => !p.bare?.any (· ≠ '=')).any fun p => p.bare? = some '='

namespace Parser

variable (readers : Readers)

def substitutionReader : ListReader := readers.list .any_

def word (c : Option Char) : Parser (Word × Option Char) := do
  let (d, c) ← readFrom (substitutionReader readers) none false patience c
    { region := { mode := .bare } }
  return (← finished false d, c)

def documentText (mark : Option Mark) (isLiteral : Bool) : Parser Word := do
  let region : Region :=
    if isLiteral then { mode := .single } else { mode := .double, isQuoted := true }
  let c ← nextIn region
  let c ← match mark with
    | some mark => lineStart mark c
    | none => pure c
  let (d, _) ← readFrom (substitutionReader readers) mark true patience c { region }
  finished true d

def documents : Parser Unit := do
  let due := (← get).due
  modify fun s => { s with due := [] }
  due.forM fun d => do
    let text ← documentText readers (some ⟨d.mark, d.stripsTabs⟩) d.isLiteral
    modify fun s => { s with documents := s.documents ++ [(d.number, text)] }

def arrow (c : Char) : Parser Arrow := do
  let d ← nextJoined
  match c, d with
  | '>', some '>' => return .to .append
  | '>', some '|' => return .to .overwrite
  | '>', some '&' => return .to .copyOutput
  | '>', _ =>
    putBack d
    return .to .output
  | _, some '<' =>
    let e ← nextJoined
    if e = some '-' then return .document true
    else
      putBack e
      return .document false
  | _, some '&' => return .to .copyInput
  | _, some '>' => return .to .inputOutput
  | _, _ =>
    putBack d
    return .to .input

def wordToken (c : Option Char) : Parser Token := do
  let (w, c) ← word readers c
  let number? := match w with
    | [] => some none
    | [.char false d] => if d.isDigit then some (some (d.toNat - 48)) else none
    | _ => none
  match number?, c.filter fun c => c = '<' || c = '>' with
  | some number, some c => return .redirection (number.getD (if c = '>' then 1 else 0)) (← arrow c)
  | _, _ =>
    putBack c
    return .word w

def doubled (c : Char) : Parser Token := do
  let d ← nextJoined
  if d = some c then return .operator (.ofList [c, c])
  else
    putBack d
    return .operator (String.singleton c)

def skipComment : Nat → Parser Unit
  | 0 => return
  | n + 1 => do
    let c ← next
    if c.any (· ≠ '\n') then skipComment n else putBack c

def freshToken : Nat → Parser Token
  | 0 => return .endOfFile
  | n + 1 => do
    match ← nextJoined with
    | none => return .endOfFile
    | some c =>
      if c = ' ' || c = '\t' then freshToken n
      else if c = '#' then
        skipComment patience
        freshToken n
      else if c = '\n' then return .newline
      else if "&|;".toList.contains c then doubled c
      else if c = '(' || c = ')' then return .operator (String.singleton c)
      else wordToken readers (some c)

def rawToken : Parser Token := do
  let s ← get
  if s.isPushed then
    set { s with isPushed := false }
    return s.last
  else
    let t ← freshToken readers patience
    modify fun s => { s with
      last := t
      lastWord := match t with
        | .word w => w
        | _ => s.lastWord }
    return t

def skipNewlines : Nat → Token → Parser Token
  | 0, t => return t
  | n + 1, t =>
    if t.isNewline then do
      documents readers
      skipNewlines n (← rawToken readers)
    else return t

/-- The next token; a word may be a keyword, or an alias whose text is read in its place. -/
def tokenFor : Nat → Looks → Parser Token
  | 0, _ => return .endOfFile
  | n + 1, looks => do
    let t ← rawToken readers
    let t ← if looks.skipsNewlines then skipNewlines readers patience t else pure t
    let s ← get
    let findsAliases := looks.findsAliases || s.findsAlias
    set { s with findsAlias := false }
    match t with
    | .word w =>
      match w.bare? with
      | none => return t
      | some name =>
        if looks.findsKeywords && keywords.contains name then
          let t := Token.keyword name
          modify fun s => { s with last := t }
          return t
        else
          match (s.aliases.find? (·.1 = name)).filter fun _ => findsAliases && isFree s name with
          | none => return t
          | some (_, text) =>
            let text := text.toList
            if !text.isEmpty then
              push
                { text
                  alias? := some name
                  passesOn := text.getLast?.any fun c => c = ' ' || c = '\t' }
            tokenFor n { looks with findsAliases }
    | _ => return t

def token (looks : Looks) : Parser Token := tokenFor readers patience looks

def demand (looks : Looks) (t : Token) : Parser Unit := do
  let u ← token readers looks
  if u.name ≠ t.name then refuse (some t)

def target (descriptor : Nat) (a : Arrow) : Parser Redirection := do
  modify fun s => { s with isMark := a matches .document _ }
  let t ← token readers {}
  modify fun s => { s with isMark := false }
  match t, a with
  | .word w, .to direction => return .redirect descriptor direction w
  | .word w, .document stripsTabs =>
    let s ← get
    let mark := w.filterMap fun
      | .char _ c => some c
      | _ => none
    let number := s.nextDocument
    let document : DueDocument := { number, mark, stripsTabs, isLiteral := Word.isQuoted w }
    set { s with due := s.due ++ [document], nextDocument := number + 1 }
    return .document descriptor number
  | _, _ => refuse none

def redirectionsFor : Nat → List Redirection → Parser (List Redirection)
  | 0, l => return l
  | n + 1, l => do
    match ← token readers (if l.isEmpty then .start else {}) with
    | .redirection descriptor a => redirectionsFor n (l ++ [← target readers descriptor a])
    | _ =>
      pushToken
      return l

structure Plain where
  settings : List Word := []
  words : List Word := []
  redirections : List Redirection := []

def function (name : Word) : Parser Command := do
  demand readers {} (.operator ")")
  match name.bare?.filter fun n => isName n && !specialCommands.contains n with
  | none => fail .badFunctionName
  | some name =>
    let line := (← get).line
    return .define line name (← readers.command .anywhere)

def simpleFor (line : Nat) : Nat → Plain → Parser Command
  | 0, p => return .simple line p.settings p.words p.redirections
  | n + 1, p => do
    match ← token readers { findsAliases := p.words.isEmpty } with
    | .word w =>
      if p.words.isEmpty && Word.isSetting w then
        simpleFor line n { p with settings := p.settings ++ [w] }
      else simpleFor line n { p with words := p.words ++ [w] }
    | .redirection descriptor a =>
      simpleFor line n { p with redirections := p.redirections ++ [← target readers descriptor a] }
    | t =>
      match p.words with
      | [name] =>
        if t.isOperator "(" && p.settings.isEmpty && p.redirections.isEmpty then
          function readers name
        else
          pushToken
          return .simple line p.settings p.words p.redirections
      | _ =>
        pushToken
        return .simple line p.settings p.words p.redirections

def wordsFor : Nat → List Word → Parser (List Word)
  | 0, l => return l
  | n + 1, l => do
    match ← token readers {} with
    | .word w => wordsFor n (l ++ [w])
    | _ => return l

def allParameters : Word := [.quotes, .parameter true "@" .plain [], .quotes]

def forLoop (line : Nat) : Parser Command := do
  match (← token readers {}) with
  | .word w =>
    match w.bare?.filter isName with
    | none => fail .badLoopVariable
    | some name =>
      let words ← if (← token readers .anywhere).isKeyword "in" then do
          let words ← wordsFor readers patience []
          let t := (← get).last
          if !t.isNewline && !t.isOperator ";" then refuse none
          pure words
        else do
          if !(← get).last.isOperator ";" then pushToken
          pure [allParameters]
      demand readers .anywhere (.keyword "do")
      let body ← readers.list .some_
      demand readers {} (.keyword "done")
      return .forEach line name words body
  | _ => fail .badLoopVariable

/-- The patterns of a case; the first one has been read. A token that is no word stands for the last
word. -/
def patternsFor : Nat → List Word → Parser (List Word)
  | 0, l => return l
  | n + 1, l => do
    let l := l ++ [(← get).lastWord]
    if (← token readers {}).isOperator "|" then
      let _ ← token readers {}
      patternsFor n l
    else return l

def casesFor : Nat → List (List Word × Option Command) → Parser (List (List Word × Option Command))
  | 0, l => return l
  | n + 1, l => do
    let t ← token readers .case_
    if t.isKeyword "esac" then return l
    if t.isOperator "(" then
      let _ ← token readers {}
    let patterns ← patternsFor readers patience []
    if !(← get).last.isOperator ")" then refuse (some (.operator ")"))
    let l := l ++ [(patterns, ← readers.list .any_)]
    let t ← token readers .case_
    if t.isKeyword "esac" then return l
    if !t.isOperator ";;" then refuse (some (.operator ";;"))
    casesFor n l

def case_ (line : Nat) : Parser Command := do
  match ← token readers {} with
  | .word subject =>
    demand readers .anywhere (.keyword "in")
    return .select line subject (← casesFor readers patience [])
  | _ => refuse (some (.word []))

def branchFor : Nat → Parser Command
  | 0 => return default
  | n + 1 => do
    let condition ← readers.list .some_
    demand readers {} (.keyword "then")
    let yes ← readers.list .some_
    let t ← token readers {}
    if t.isKeyword "elif" then return .branch condition yes (some (← branchFor n))
    else if t.isKeyword "else" then return .branch condition yes (← readers.list .some_)
    else
      pushToken
      return .branch condition yes none

def loop (isUntil : Bool) : Parser Command := do
  let condition ← readers.list .some_
  demand readers {} (.keyword "do")
  let body ← readers.list .some_
  demand readers {} (.keyword "done")
  return .loop isUntil condition body

def withRedirections (line : Nat) (c : Command) : Parser Command := do
  let redirections ← redirectionsFor readers patience []
  if redirections.isEmpty then return c
  match c with
  | .subshell l body _ => return .subshell l body redirections
  | c => return .redirected line c redirections

def command (looks : Looks) : Parser Command := do
  let line := (← get).line
  match ← token readers looks with
  | .keyword "if" =>
    let c ← branchFor readers patience
    demand readers {} (.keyword "fi")
    withRedirections readers line c
  | .keyword "while" => withRedirections readers line (← loop readers false)
  | .keyword "until" => withRedirections readers line (← loop readers true)
  | .keyword "for" => withRedirections readers line (← forLoop readers line)
  | .keyword "case" => withRedirections readers line (← case_ readers line)
  | .keyword "\x7b" =>
    let body ← readers.list .some_
    demand readers {} (.keyword "\x7d")
    withRedirections readers line (body.getD default)
  | .operator "(" =>
    let body ← readers.list .some_
    demand readers {} (.operator ")")
    withRedirections readers line (.subshell line body [])
  | .word _ | .redirection .. =>
    pushToken
    simpleFor readers (← get).line patience {}
  | _ => refuse none

def pipelineFor : Nat → List Command → Parser (List Command)
  | 0, l => return l
  | n + 1, l => do
    if (← token readers {}).isOperator "|" then
      pipelineFor n (l ++ [← command readers .anywhere])
    else
      pushToken
      return l

def pipeline (looks : Looks) : Parser Command := do
  let isNegated := (← token readers looks).isKeyword "!"
  if !isNegated then pushToken
  let c ← command readers (if isNegated then .start else {})
  let body ← match ← pipelineFor readers patience [c] with
    | [c] => pure c
    | l => pure (.pipeline false l)
  return if isNegated then .negation body else body

def chainFor : Nat → Command → Parser Command
  | 0, c => return c
  | n + 1, c => do
    let t ← token readers {}
    if t.isOperator "&&" || t.isOperator "||" then
      let d ← pipeline readers .anywhere
      chainFor n (if t.isOperator "&&" then .both c d else .either c d)
    else
      pushToken
      return c

def chain : Parser Command := do chainFor readers patience (← pipeline readers {})

def inBackground : Command → Command
  | .pipeline _ l => .pipeline true l
  | .redirected line body redirections => .background line body redirections
  | c => .background 0 c []

def listFor (kind : ListKind) : Nat → Bool → Option Command → Parser (Option Command)
  | 0, _, c => return c
  | n + 1, mayEnd, c => do
    let t ← token readers (if kind = .line then .start else .anywhere)
    if t.isNewline then
      documents readers
      return c
    if t.isEnd then
      documents readers
      modify fun s => { s with last := .endOfFile, isPushed := true }
      return c
    pushToken
    if kind ≠ .line && mayEnd && t.endsList then return c
    let d ← chain readers
    let t ← token readers {}
    let d := if t.isOperator "&" then inBackground d else d
    let c := some (c.elim d fun c => .after c d)
    if t.isOperator "&" || t.isOperator ";" then listFor kind n true c
    else if t.isNewline || t.isEnd then
      pushToken
      listFor kind n true c
    else
      if kind = .line then refuse none
      pushToken
      return c

def readersAt : Nat → Readers
  | 0 => ⟨fun _ => return none, fun _ => return default⟩
  | depth + 1 =>
    { list kind := fun s => listFor (readersAt depth) kind patience (kind = .any_) none s
      command looks := fun s => command (readersAt depth) looks s }

def readersOfAll : Readers := readersAt patience

/-- The next line of a script, which may be empty; none at the end of the script. -/
def line : Parser (Option (Option Command)) := do
  modify fun s => { s with isPushed := false, due := [], findsAlias := false }
  let c ← readersOfAll.list .line
  return if c.isNone && (← get).last.isEnd then none else some c

def text : Parser Word := documentText readersOfAll none false

end Parser

end Shorthand.Posix
