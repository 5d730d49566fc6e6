import BuildService.Shell.Script
/-!
Reading scripts.

A script is read one complete command at a time, so that what stands in front of
a fault is still obeyed. All readers count down a number of steps that is chosen
larger than the script is long.
-/

set_option autoImplicit false

namespace BuildService.Shell

/-- Why a script cannot be read. -/
inductive SyntaxFault where
  | unterminatedQuote
  | unterminatedBackquote
  | badLoopVariable
  | badFunctionName
  /-- The script ends before a bracket is closed. -/
  | missing (bracket : String)
  /-- Something stands where it must not; `expected` is what is missing, if that is known. -/
  | unexpected (found : String) (expected : Option String)
  deriving DecidableEq, Repr

/-- A token as a fault names it. The kinds of tokens stand as they are, and all else between
quotes. -/
def tokenText (token : String) : String :=
  if ["end of file", "newline", "redirection", "word"].contains token then token
  else "\"" ++ token ++ "\""

def SyntaxFault.message : SyntaxFault → String
  | unterminatedQuote => "Syntax error: Unterminated quoted string"
  | unterminatedBackquote => "Syntax error: EOF in backquote substitution"
  | badLoopVariable => "Syntax error: Bad for loop variable"
  | badFunctionName => "Syntax error: Bad function name"
  | missing bracket => "Syntax error: Missing '" ++ bracket ++ "'"
  | unexpected found expected =>
    "Syntax error: " ++ tokenText found ++ " unexpected" ++
      ((expected.map fun e => " (expecting " ++ tokenText e ++ ")").getD "")

namespace Reader

def isNameStart (c : Char) : Bool := c.isAlpha || c == '_'

def isNameChar (c : Char) : Bool := c.isAlphanum || c == '_'

def isName (s : Raw) : Bool := s.head?.any isNameStart && s.all isNameChar

def endsWord (c : Char) : Bool := " \t\n;&|<>()".toList.contains c

/-- Skips blanks, line continuations and a comment. -/
def skipBlanks : Raw → Raw
  | ' ' :: rest => skipBlanks rest
  | '\t' :: rest => skipBlanks rest
  | '\\' :: '\n' :: rest => skipBlanks rest
  -- The end of the line is no part of the comment.
  | '#' :: rest => rest.dropWhile (· != '\n')
  | rest => rest

/-- Skips blanks and ends of lines. -/
def skipLines (n : Nat) (i : Raw) : Raw :=
  match n, skipBlanks i with
  | n + 1, '\n' :: rest => skipLines n rest
  | _, rest => rest

/-! ## Words -/

/-- What stands between apostrophes, and what follows. -/
def apostrophes (i : Raw) : Except SyntaxFault (Raw × Raw) :=
  match i.dropWhile (· != '\'') with
  | _ :: rest => .ok (i.takeWhile (· != '\''), rest)
  | [] => .error .unterminatedQuote

/-- What stands between backquotes, and what follows. A backslash keeps its place unless it
stands in front of a backquote, a dollar sign or itself. -/
def backquotes : Raw → Except SyntaxFault (Raw × Raw)
  | [] => .error .unterminatedBackquote
  | '\x60' :: rest => .ok ([], rest)
  | '\\' :: c :: rest => do
    let (s, rest) ← backquotes rest
    if c = '\x60' ∨ c = '\\' ∨ c = '$' then .ok (c :: s, rest) else .ok ('\\' :: c :: s, rest)
  | c :: rest => do
    let (s, rest) ← backquotes rest
    .ok (c :: s, rest)

/-- Where a search for a closing bracket stands: which closing brackets are still to come, the
innermost first, and whether it is between quotes. -/
structure Nesting where
  awaited : List Char
  isQuoted : Bool

/-- The fault of a search that comes to the end, where `unclosed` is that of a missing bracket. -/
def Nesting.fault (nest : Nesting) (unclosed : SyntaxFault) : SyntaxFault :=
  if nest.isQuoted then .unterminatedQuote else unclosed

/-- What stands in front of the bracket that closes the outermost one, and what follows it. -/
def enclosed (unclosed : SyntaxFault) : Nat → Nesting → Raw → Except SyntaxFault (Raw × Raw)
  | 0, nest, _ => .error (nest.fault unclosed)
  | _, nest, [] => .error (nest.fault unclosed)
  | n + 1, nest, c :: rest =>
    let more (s : Raw) (nest : Nesting) (rest : Raw) : Except SyntaxFault (Raw × Raw) := do
      let (t, rest) ← enclosed unclosed n nest rest
      .ok (s ++ t, rest)
    -- What is skipped here is read again later, so everything is kept as it stands.
    if c = '\\' then
      match rest with
      | d :: rest => more [c, d] nest rest
      | [] => .error (nest.fault unclosed)
    else if c = '\'' && !nest.isQuoted then do
      let (s, rest) ← apostrophes rest
      more ('\'' :: s ++ ['\'']) nest rest
    else if c = '"' then more [c] { nest with isQuoted := !nest.isQuoted } rest
    else match nest.awaited with
      | [] => .error (nest.fault unclosed)
      | a :: outer =>
        if c = a && !nest.isQuoted then
          if outer.isEmpty then .ok ([], rest) else more [c] ⟨outer, false⟩ rest
        else if c = '(' && !nest.isQuoted && a = ')' then
          more [c] ⟨')' :: nest.awaited, false⟩ rest
        else if c = '$' && rest.head? = some '{' && !nest.isQuoted then
          more [c, '{'] ⟨'}' :: nest.awaited, false⟩ (rest.drop 1)
        else more [c] nest rest

/-- The characters that stand for values of the shell's own. -/
def isSpecial (c : Char) : Bool := "@*#?-$!".toList.contains c

/-- What stands between the braces of a variable. -/
def braced (s : Raw) (isQuoted : Bool) : Piece :=
  match s with
  | ['#'] => .variable ['#'] .value isQuoted
  | '#' :: name =>
    if isName name || name.all Char.isDigit || name.length = 1 then
      .variable name .length isQuoted
    else .variable name .broken isQuoted
  | _ =>
    let name :=
      if s.head?.any isNameStart then s.takeWhile isNameChar
      else if s.head?.any Char.isDigit then s.takeWhile Char.isDigit
      else (s.take 1).filter isSpecial
    let rest := s.drop name.length
    let (orEmpty, rest) := match rest with
      | ':' :: more => (true, more)
      | more => (false, more)
    let piece (u : Use) : Piece := .variable name u isQuoted
    if name.isEmpty then piece .broken
    else
      match orEmpty, rest with
      | false, [] => piece .value
      | e, '-' :: word => piece (.default e word)
      | e, '=' :: word => piece (.assign e word)
      | e, '+' :: word => piece (.instead e word)
      | e, '?' :: word => piece (.require e word)
      | false, '%' :: '%' :: p => piece (.trim true true p)
      | false, '%' :: p => piece (.trim true false p)
      | false, '#' :: '#' :: p => piece (.trim false true p)
      | false, '#' :: p => piece (.trim false false p)
      | _, _ => piece .broken

def dollar (n : Nat) (isQuoted : Bool) (i : Raw) : Except SyntaxFault (Piece × Raw) :=
  match i with
  | '(' :: rest => do
    let unclosed := if rest.head? = some '(' then SyntaxFault.missing "))"
      else .unexpected "end of file" (some ")")
    let (s, rest) ← enclosed unclosed n ⟨[')'], false⟩ rest
    -- Two brackets on both sides make an expression; otherwise the inner ones are a subshell.
    match s, s.getLast? with
    | '(' :: expression, some ')' => .ok (.arithmetic expression.dropLast isQuoted, rest)
    | _, _ => .ok (.command s isQuoted, rest)
  | '{' :: rest => do
    let (s, rest) ← enclosed (.missing "\x7d") n ⟨['}'], false⟩ rest
    .ok (braced s isQuoted, rest)
  | c :: rest =>
    if isNameStart c then
      .ok (.variable (i.takeWhile isNameChar) .value isQuoted, i.dropWhile isNameChar)
    else if c.isDigit || isSpecial c then .ok (.variable [c] .value isQuoted, rest)
    -- A dollar sign in front of anything else stands for itself.
    else .ok (.literal ['$'] isQuoted, i)
  | [] => .ok (.literal ['$'] isQuoted, [])

/-- What a quoted text stands in. -/
inductive Surrounding where
  /-- Double quotes, the second of which ends the text. -/
  | quotes
  /-- Braces that are quoted themselves; double quotes in them mean nothing. -/
  | braces
  /-- Lines below a redirection, in which double quotes mean themselves. -/
  | lines
  deriving DecidableEq, Repr

def quoted (place : Surrounding) : Nat → Raw → Except SyntaxFault (Word × Raw)
  | 0, _ => .error .unterminatedQuote
  | _, [] => if place = .quotes then .error .unterminatedQuote else .ok ([], [])
  | n + 1, c :: rest =>
    let add (p : Piece) (rest : Raw) : Except SyntaxFault (Word × Raw) := do
      let (w, rest) ← quoted place n rest
      .ok (p :: w, rest)
    if c = '"' then
      match place with
      | .quotes => .ok ([], rest)
      | .braces => quoted place n rest
      | .lines => add (.literal [c] true) rest
    else if c = '\\' then
      match rest with
      | '\n' :: rest => quoted place n rest
      | d :: rest =>
        if d = '$' ∨ d = '\x60' ∨ d = '\\' ∨ (d = '"' ∧ place ≠ .lines) then
          add (.literal [d] true) rest
        else add (.literal [c, d] true) rest
      | [] => if place = .quotes then .error .unterminatedQuote
        else .ok ([.literal [c] true], [])
    else if c = '$' then do
      let (p, rest) ← dollar (rest.length + 1) true rest
      add p rest
    else if c = '\x60' then do
      let (s, rest) ← backquotes rest
      add (.command s true) rest
    else
      let plain := (c :: rest).takeWhile fun d => !"\"\\$\x60".toList.contains d
      add (.literal plain true) ((c :: rest).drop plain.length)

/-- The rest of a word. In a word that stands alone nothing but quotes and dollar signs has a
meaning. -/
def word (alone : Bool) : Nat → Raw → Except SyntaxFault (Word × Raw)
  | 0, i => .ok ([], i)
  | _, [] => .ok ([], [])
  | n + 1, c :: rest =>
    let add (p : Word) (rest : Raw) : Except SyntaxFault (Word × Raw) := do
      let (w, rest) ← word alone n rest
      .ok (p ++ w, rest)
    if endsWord c && !alone then .ok ([], c :: rest)
    else if c = '\\' then
      match rest with
      | '\n' :: rest => word alone n rest
      | d :: rest => add [.literal [d] true] rest
      | [] => add [.literal ['\\'] true] []
    else if c = '\'' then do
      let (s, rest) ← apostrophes rest
      add [.literal s true] rest
    else if c = '"' then do
      let (w, rest) ← quoted .quotes (rest.length + 1) rest
      -- Two quotes with nothing between them make a word, though an empty one.
      add (if w.isEmpty then [.literal [] true] else w) rest
    else if c = '$' then do
      let (p, rest) ← dollar (rest.length + 1) false rest
      add [p] rest
    else if c = '\x60' then do
      let (s, rest) ← backquotes rest
      add [.command s false] rest
    else
      let plain := (c :: rest).takeWhile fun d =>
        !"\\'\"$\x60".toList.contains d && (alone || !endsWord d)
      add [.literal plain false] ((c :: rest).drop plain.length)

def wordOf (i : Raw) : Except SyntaxFault (Word × Raw) := word false (i.length + 1) i

/-- Reads a text as one word. -/
def wholeWord (i : Raw) : Except SyntaxFault Word := (word true (i.length + 1) i).map (·.1)

/-- Reads the whole of a quoted text. -/
def quotedWhole (place : Surrounding) (i : Raw) : Except SyntaxFault Word :=
  (quoted place (i.length + 1) i).map (·.1)

/-! ## What stands at a place -/

/-- The characters of a word that stand here as they are. -/
def bareWord (i : Raw) : Raw := i.takeWhile (!endsWord ·)

/-- The words that begin or end a command with structure. -/
def keywords : List String :=
  ["!", "case", "do", "done", "elif", "else", "esac", "fi", "for", "if", "then", "until", "while",
    "\x7b", "\x7d"]

/-- What a fault calls the thing that stands here. -/
def foundHere (i : Raw) : String :=
  match i with
  | [] => "end of file"
  | '\n' :: _ => "newline"
  | ';' :: ';' :: _ => ";;"
  | '&' :: '&' :: _ => "&&"
  | '|' :: '|' :: _ => "||"
  | c :: _ =>
    if c = '<' || c = '>' then "redirection"
    else if endsWord c then Raw.text [c]
    else if keywords.contains (Raw.text (bareWord i)) then Raw.text (bareWord i)
    else "word"

/-! ## Redirections -/

/-- The lines up to one that holds a mark and nothing else, and what follows that line. -/
def untilMark (mark : Raw) (strip : Bool) : Nat → Raw → Raw × Raw
  | 0, i => ([], i)
  | _, [] => ([], [])
  | n + 1, i =>
    let line := i.takeWhile (· != '\n')
    let rest := i.drop (line.length + 1)
    let line := if strip then line.dropWhile (· == '\t') else line
    if line = mark then ([], rest)
    else
      let (lines, rest) := untilMark mark strip n rest
      (line ++ '\n' :: lines, rest)

/-- The text of a word without its quotes, if nothing in it is computed. -/
def plainText (w : Word) : Raw :=
  w.flatMap fun
    | .literal s _ => s
    | _ => []

/-- Whether a word is quoted somewhere. -/
def hasQuotes (w : Word) : Bool :=
  w.any fun
    | .literal _ q => q
    | _ => false

/-- A text that stands below the line of its redirection. -/
def hereText (descriptor : Nat) (strip : Bool) (i : Raw) :
    Except SyntaxFault (Redirection × Raw) := do
  let (mark, rest) ← wordOf (skipBlanks i)
  if mark.isEmpty then .error (.unexpected (foundHere rest) none)
  let line := rest.takeWhile (· != '\n')
  let below := rest.drop (line.length + 1)
  let (body, after) := untilMark (plainText mark) strip (below.length + 1) below
  -- If the mark is quoted, nothing in the text is replaced.
  let target ← if hasQuotes mark then .ok [.literal body true] else quotedWhole .lines body
  -- The rest of the line goes on in front of what follows the text.
  .ok (⟨descriptor, .here, target⟩, line ++ '\n' :: after)

/-- Reads a redirection, if one begins here. -/
def redirection? (i : Raw) : Except SyntaxFault (Option (Redirection × Raw)) :=
  let digits := i.takeWhile Char.isDigit
  let number (d : Nat) : Nat :=
    if digits.isEmpty then d
    else digits.foldl (fun n c => n * 10 + (c.toNat - '0'.toNat)) 0
  let onto (descriptor : Nat) (direction : Direction) (rest : Raw) :
      Except SyntaxFault (Option (Redirection × Raw)) := do
    let (w, rest) ← wordOf (skipBlanks rest)
    if w.isEmpty then .error (.unexpected (foundHere rest) none)
    else .ok (some (⟨descriptor, direction, w⟩, rest))
  match i.drop digits.length with
  | '>' :: '>' :: rest => onto (number 1) .append rest
  | '>' :: '&' :: rest => onto (number 1) .duplicate rest
  | '>' :: '|' :: rest => onto (number 1) .write rest
  | '>' :: rest => onto (number 1) .write rest
  | '<' :: '<' :: '-' :: rest => do .ok (some (← hereText (number 0) true rest))
  | '<' :: '<' :: rest => do .ok (some (← hereText (number 0) false rest))
  | '<' :: '&' :: rest => onto (number 0) .duplicate rest
  | '<' :: rest => onto (number 0) .read rest
  | _ => .ok none

/-- Reads all redirections that stand here. -/
def redirections : Nat → Raw → Except SyntaxFault (List Redirection × Raw)
  | 0, i => .ok ([], i)
  | n + 1, i => do
    match ← redirection? (skipBlanks i) with
    | none => .ok ([], i)
    | some (r, rest) =>
      let (rs, rest) ← redirections n rest
      .ok (r :: rs, rest)

/-! ## Commands -/

/-- Reads a certain word. -/
def expectWord (w : String) (i : Raw) : Except SyntaxFault Raw :=
  if bareWord i = w.toList then .ok (i.drop w.length)
  else .error (.unexpected (foundHere i) (some w))

/-- The words that end a list of commands. -/
def closingWords : List String := ["then", "elif", "else", "fi", "do", "done", "esac", "\x7d"]

/-- Whether a list of commands ends here. -/
def endsList (i : Raw) : Bool :=
  match i with
  | [] => true
  | ')' :: _ => true
  | ';' :: ';' :: _ => true
  | _ => closingWords.contains (Raw.text (bareWord i))

/-- The assignment that a word stands for, if it is one. -/
def assignment? : Word → Option (Raw × Word)
  | .literal s false :: rest =>
    let name := s.takeWhile (· != '=')
    match s.drop name.length with
    | _ :: value =>
      if isName name then
        some (name, if value.isEmpty then rest else .literal value false :: rest)
      else none
    | [] => none
  | _ => none

/-- The rest of a command without structure. -/
def simpleRest : Nat → Simple → Raw → Except SyntaxFault (Simple × Raw)
  | 0, c, i => .ok (c, i)
  | n + 1, c, i => do
    let i := skipBlanks i
    match ← redirection? i with
    | some (r, rest) => simpleRest n { c with redirections := c.redirections ++ [r] } rest
    | none =>
      if i.head?.all endsWord then .ok (c, i)
      else
        let (w, rest) ← wordOf i
        -- Behind the name of the command there are no assignments any more.
        match if c.words.isEmpty then assignment? w else none with
        | some a => simpleRest n { c with assignments := c.assignments ++ [a] } rest
        | none => simpleRest n { c with words := c.words ++ [w] } rest

/-- The words up to the end of a line or a semicolon. -/
def wordsToEnd : Nat → Raw → Except SyntaxFault (List Word × Raw)
  | 0, i => .ok ([], i)
  | n + 1, i => do
    let i := skipBlanks i
    if i.head?.all endsWord then .ok ([], i)
    else
      let (w, rest) ← wordOf i
      let (ws, rest) ← wordsToEnd n rest
      .ok (w :: ws, rest)

def patterns : Nat → Raw → Except SyntaxFault (List Word × Raw)
  | 0, i => .ok ([], i)
  | n + 1, i => do
    let (w, rest) ← wordOf (skipBlanks i)
    match skipBlanks rest with
    | '|' :: rest => do
      let (ws, rest) ← patterns n rest
      .ok (w :: ws, rest)
    | ')' :: rest => .ok ([w], rest)
    | rest => .error (.unexpected (foundHere rest) (some ")"))

/-- Skips one semicolon and ends of lines. -/
def skipSeparator (i : Raw) : Raw :=
  match skipBlanks i with
  | ';' :: rest => skipLines rest.length rest
  | rest => skipLines rest.length rest

/-- The line of a place of which this much is left, in a script of so many lines. -/
def lineOf (lines : Nat) (i : Raw) : Nat := lines - i.count '\n'

mutual

/-- Reads a list of commands up to something that ends it. -/
def list (lines : Nat) : Nat → Raw → Except SyntaxFault (Tree × Raw)
  | 0, i => .error (.unexpected (foundHere i) none)
  | n + 1, i => do
    let i := skipLines i.length i
    if endsList i then .ok (.nothing, i)
    else
      let (t, rest) ← andOr lines n i
      match skipBlanks rest with
      | '&' :: rest => do
        let (more, rest) ← list lines n rest
        .ok (.sequence (.background t) more, rest)
      -- This ends an arm, so it is left for whoever reads arms.
      | ';' :: ';' :: rest => .ok (t, ';' :: ';' :: rest)
      | ';' :: rest => do
        let (more, rest) ← list lines n rest
        .ok (.sequence t more, rest)
      | '\n' :: rest => do
        let (more, rest) ← list lines n rest
        .ok (.sequence t more, rest)
      | rest =>
        if endsList rest then .ok (t, rest) else .error (.unexpected (foundHere rest) none)

/-- Reads pipelines that depend on each other. -/
def andOr (lines : Nat) : Nat → Raw → Except SyntaxFault (Tree × Raw)
  | 0, i => .error (.unexpected (foundHere i) none)
  | n + 1, i => do
    let (t, rest) ← pipeline lines n i
    andOrRest lines n t rest

/-- Reads what follows a pipeline that others may depend on. -/
def andOrRest (lines : Nat) : Nat → Tree → Raw → Except SyntaxFault (Tree × Raw)
  | 0, t, i => .ok (t, i)
  | n + 1, t, i => do
    match skipBlanks i with
    | '&' :: '&' :: rest => do
      let (u, rest) ← pipeline lines n (skipLines rest.length rest)
      andOrRest lines n (.andThen t u) rest
    | '|' :: '|' :: rest => do
      let (u, rest) ← pipeline lines n (skipLines rest.length rest)
      andOrRest lines n (.orElse t u) rest
    | rest => .ok (t, rest)

/-- Reads commands that are joined by pipes. -/
def pipeline (lines : Nat) : Nat → Raw → Except SyntaxFault (Tree × Raw)
  | 0, i => .error (.unexpected (foundHere i) none)
  | n + 1, i => do
    let i := skipBlanks i
    if bareWord i = ['!'] then
      -- A pipeline is negated once.
      if bareWord (skipBlanks (i.drop 1)) = ['!'] then .error (.unexpected "!" none)
      let (t, rest) ← pipeline lines n (i.drop 1)
      .ok (.negate t, rest)
    else
      let (t, rest) ← command lines n i
      pipelineRest lines n t rest

/-- Reads what a command is piped into. -/
def pipelineRest (lines : Nat) : Nat → Tree → Raw → Except SyntaxFault (Tree × Raw)
  | 0, t, i => .ok (t, i)
  | n + 1, t, i => do
    match skipBlanks i with
    -- This is no pipe, and is left for whoever reads what depends on each other.
    | '|' :: '|' :: rest => .ok (t, '|' :: '|' :: rest)
    | '|' :: rest => do
      let (u, rest) ← command lines n (skipLines rest.length rest)
      pipelineRest lines n (.pipe t u) rest
    | rest => .ok (t, rest)

/-- Reads a command, with the redirections of a command that has structure. -/
def command (lines : Nat) : Nat → Raw → Except SyntaxFault (Tree × Raw)
  | 0, i => .error (.unexpected (foundHere i) none)
  | n + 1, i => do
    let i := skipBlanks i
    match ← compound? lines n i with
    | some (t, rest) => do
      let (rs, rest) ← redirections n rest
      .ok (if rs.isEmpty then t else .redirected t rs, rest)
    | none =>
      let (c, rest) ← simpleRest (i.length + 1) ⟨lineOf lines i, [], [], []⟩ i
      match c.words, c.assignments, c.redirections, rest with
      -- A single bare word with a bracket behind it is the head of a function.
      | [[.literal name false]], [], [], '(' :: more =>
        match skipBlanks more with
        | ')' :: more => do
          if !isName name then .error .badFunctionName
          let (body, rest) ← command lines n (skipLines more.length more)
          .ok (.function name body, rest)
        | more => .error (.unexpected (foundHere more) (some ")"))
      | [], [], [], _ => .error (.unexpected (foundHere rest) none)
      | _, _, _, _ => .ok (.simple c, rest)

/-- Reads a command that has structure, if one begins here. -/
def compound? (lines : Nat) : Nat → Raw → Except SyntaxFault (Option (Tree × Raw))
  | 0, i => .error (.unexpected (foundHere i) none)
  | n + 1, i => do
    match i with
    | '(' :: rest => do
      let (t, rest) ← list lines n rest
      match rest with
      | ')' :: rest => .ok (some (.subshell t, rest))
      | rest => .error (.unexpected (foundHere rest) (some ")"))
    | _ =>
      let w := Raw.text (bareWord i)
      let rest := i.drop (bareWord i).length
      if w = "\x7b" then do
        let (t, rest) ← list lines n rest
        .ok (some (t, ← expectWord "\x7d" rest))
      else if w = "if" then do .ok (some (← branches lines n rest))
      else if w = "while" || w = "until" then do
        let (condition, rest) ← list lines n rest
        let (body, rest) ← list lines n (← expectWord "do" rest)
        .ok (some (.loop (w = "while") condition body, ← expectWord "done" rest))
      else if w = "for" then do
        let i := skipBlanks rest
        let name := bareWord i
        if !isName name then .error .badLoopVariable
        let i := skipLines i.length (i.drop name.length)
        let (words, i) ←
          if bareWord i = "in".toList then do
            let (ws, i) ← wordsToEnd (i.length + 1) (i.drop 2)
            pure (some ws, i)
          else pure (none, i)
        let (body, rest) ← list lines n (← expectWord "do" (skipSeparator i))
        .ok (some (.each name words body, ← expectWord "done" rest))
      else if w = "case" then do
        let (subject, rest) ← wordOf (skipBlanks rest)
        if subject.isEmpty then .error (.unexpected (foundHere rest) (some "word"))
        let i := skipLines rest.length rest
        .ok (some (← arms lines n subject (← expectWord "in" i)))
      else if closingWords.contains w then .error (.unexpected (foundHere i) none)
      else .ok none

/-- Reads the condition of a conditional and what follows it. -/
def branches (lines : Nat) : Nat → Raw → Except SyntaxFault (Tree × Raw)
  | 0, i => .error (.unexpected (foundHere i) none)
  | n + 1, i => do
    let (condition, rest) ← list lines n i
    let (yes, rest) ← list lines n (← expectWord "then" rest)
    if bareWord rest = "elif".toList then
      let (no, rest) ← branches lines n (rest.drop 4)
      .ok (.conditional condition yes no, rest)
    else if bareWord rest = "else".toList then
      let (no, rest) ← list lines n (rest.drop 4)
      .ok (.conditional condition yes no, ← expectWord "fi" rest)
    else .ok (.conditional condition yes .nothing, ← expectWord "fi" rest)

/-- Reads the arms of a choice. -/
def arms (lines : Nat) : Nat → Word → Raw → Except SyntaxFault (Tree × Raw)
  | 0, _, i => .error (.unexpected (foundHere i) none)
  | n + 1, subject, i => do
    let i := skipLines i.length i
    if bareWord i = "esac".toList then .ok (.nothing, i.drop 4)
    else
      -- An arm may begin with a bracket.
      let i := if i.head? = some '(' then i.drop 1 else i
      let (ps, rest) ← patterns (i.length + 1) i
      let (body, rest) ← list lines n rest
      match rest with
      | ';' :: ';' :: rest => do
        let (more, rest) ← arms lines n subject rest
        .ok (.choice subject ps body more, rest)
      | rest =>
        if bareWord rest = "esac".toList then
          .ok (.choice subject ps body .nothing, rest.drop 4)
        else .error (.unexpected (foundHere rest) (some ";;"))

end

/-- How many steps suffice for a script. -/
def steps (i : Raw) : Nat := 16 * i.length + 64

/-- Reads the commands of one line, or of several if a command spans them. -/
def lineRest (lines : Nat) : Nat → Tree → Raw → Except SyntaxFault (Tree × Raw)
  | 0, t, i => .ok (t, i)
  | n + 1, t, i => do
    let i := skipBlanks i
    match i with
    | [] => .ok (t, [])
    | '\n' :: rest => .ok (t, rest)
    | _ =>
      let (u, rest) ← andOr lines (steps i) i
      match skipBlanks rest with
      | '&' :: rest => lineRest lines n (.sequence t (.background u)) rest
      | ';' :: ';' :: _ => .error (.unexpected ";;" none)
      | ';' :: rest => lineRest lines n (.sequence t u) rest
      | '\n' :: rest => .ok (.sequence t u, rest)
      | [] => .ok (.sequence t u, [])
      | rest => .error (.unexpected (foundHere rest) none)

/-- Reads the next complete command of a script of so many lines. -/
def nextCommand (lines : Nat) (i : Raw) : Except SyntaxFault (Tree × Raw) :=
  lineRest lines (i.length + 1) .nothing i

end Reader

end BuildService.Shell
