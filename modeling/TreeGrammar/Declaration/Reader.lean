import TreeGrammar.Declaration
import TreeGrammar.GrammarError
set_option autoImplicit false

namespace TreeGrammar

-- Finished alternatives, and the mentions of the one in progress, stand with the newest first.
inductive Unfinished where
  | nothing
  | named (name : String) (position : Position)
  | within (name : String) (position : Position) (finished : List (List Mention))
      (current : List Mention)
deriving DecidableEq

structure Reading where
  declared : List Declaration
  unfinished : Unfinished
deriving DecidableEq

namespace Reading

def start : Reading := ⟨[], .nothing⟩

-- One lexeme always decides how to go on, so the first lexeme without a step ends the longest part of
-- the text that some definition starts with.
def step? (reading : Reading) (lexeme : Lexeme) : Option Reading :=
  match reading.unfinished, lexeme.token with
  | .nothing, .identifier name => some { reading with unfinished := .named name lexeme.position }
  | .named name position, .semicolon => some ⟨⟨name, position, none⟩ :: reading.declared, .nothing⟩
  | .named name position, .colon => some { reading with unfinished := .within name position [] [] }
  | .within name position finished current, .identifier mentioned =>
    some { reading with
      unfinished := .within name position finished (⟨mentioned, none, lexeme.position⟩ :: current) }
  | .within name position finished (⟨mentioned, none, place⟩ :: earlier), .tag multiplicity =>
    some { reading with
      unfinished := .within name position finished (⟨mentioned, some multiplicity, place⟩ :: earlier) }
  | .within name position finished (last :: earlier), .pipe =>
    some { reading with
      unfinished := .within name position ((last :: earlier).reverse :: finished) [] }
  | .within name position finished (last :: earlier), .semicolon =>
    some ⟨⟨name, position, some ((last :: earlier).reverse :: finished).reverse⟩ :: reading.declared,
      .nothing⟩
  | _, _ => none

def step (reading : Reading) (lexeme : Lexeme) : Except Lexeme Reading :=
  match reading.step? lexeme with
  | some next => .ok next
  | none => .error lexeme

def readAll (reading : Reading) (lexemes : List Lexeme) : Except Lexeme Reading :=
  lexemes.foldlM step reading

def finish? (reading : Reading) : Option (List Declaration) :=
  match reading.unfinished with
  | .nothing => some reading.declared.reverse
  | _ => none

end Reading

def readDeclarations (source text : String) : Except GrammarError (List Declaration) := do
  match Reading.start.readAll (← tokenize source text) with
  | .error lexeme => .error ⟨.unexpectedToken lexeme.token, some ⟨source, lexeme.position⟩⟩
  | .ok reading =>
    match reading.finish? with
    | some declarations => .ok declarations
    | none => .error ⟨.unexpectedEnd, some ⟨source, .endOf text⟩⟩

end TreeGrammar
