import Querysmith.Options

namespace Querysmith.CommandLine

inductive Command where
  | select (request : String)
  | insert (table record : String)
  | update (table changes : String) (filter : Option String)
  | delete (table : String) (filter : Option String)
  | sql (request : String)
deriving DecidableEq

structure Arguments where
  db : String
  logQueries : Bool
  listMode : ListMode
  init : Option String
  command : Command
deriving DecidableEq

inductive Refusal where
  | usage
  | information
deriving DecidableEq

def Refusal.exitCode : Refusal → Nat
  | usage => 2
  | information => 0

inductive CommandName where
  | select
  | insert
  | update
  | delete
  | sql
deriving DecidableEq

def CommandName.ofString? (s : String) : Option CommandName :=
  if s = "select" then some .select
  else if s = "insert" then some .insert
  else if s = "update" then some .update
  else if s = "delete" then some .delete
  else if s = "sql" then some .sql
  else none

inductive Word where
  | escape
  | long (name : String) (value : Option String)
  | short (first : Char)
  | plain (s : String)

def Word.ofString (s : String) : Word :=
  match s.toList with
  | ['-', '-'] => .escape
  | '-' :: '-' :: rest =>
      let name := String.ofList (rest.takeWhile (· ≠ '='))
      match rest.dropWhile (· ≠ '=') with
      | [] => .long name none
      | _ :: value => .long name (some (String.ofList value))
  | '-' :: c :: _ => .short c
  | _ => .plain s

/-- An option that was named but is not settled. That happens when the next one comes or at the end,
so its value is refused no earlier. -/
structure Pending (κ : Type) where
  option : κ
  value : Option String

inductive GlobalOption where
  | db
  | listMode
  | init
deriving DecidableEq

def GlobalOption.ofString? (s : String) : Option GlobalOption :=
  if s = "db" then some .db
  else if s = "in-list" then some .listMode
  else if s = "init" then some .init
  else none

structure Globals where
  db : Option String
  logQueries : Bool
  listMode : Option ListMode
  init : Option String

def listMode? (s : String) : Option ListMode :=
  if s = "inline" then some .inline
  else if s = "parameterized" then some .parameterized
  else none

namespace Globals

def none : Globals := ⟨.none, false, .none, .none⟩

def set (g : Globals) (o : GlobalOption) (value : String) : Except Refusal Globals :=
  match o with
  | .db => if g.db.isSome then .error .usage else .ok { g with db := some value }
  | .listMode =>
      match g.listMode, listMode? value with
      | .none, some mode => .ok { g with listMode := some mode }
      | _, _ => .error .usage
  | .init =>
      if g.init.isSome || value = "" then .error .usage else .ok { g with init := some value }

def settle (g : Globals) : Option (Pending GlobalOption) → Except Refusal Globals
  | .none => .ok g
  | some ⟨_, .none⟩ => .error .usage
  | some ⟨o, some value⟩ => g.set o value

def arguments (g : Globals) (c : Command) : Arguments :=
  ⟨g.db.getD ":memory:", g.logQueries, g.listMode.getD .inline, g.init, c⟩

end Globals

structure Operands where
  positional : List String
  filter : Option String

namespace CommandName

def arity : CommandName → Nat
  | select | sql | delete => 1
  | insert | update => 2

def takesFilter : CommandName → Bool
  | update | delete => true
  | _ => false

def command? (name : CommandName) (o : Operands) : Except Refusal Command :=
  match name, o.positional with
  | select, [request] => .ok (.select request)
  | insert, [table, record] => .ok (.insert table record)
  | update, [table, changes] => .ok (.update table changes o.filter)
  | delete, [table] => .ok (.delete table o.filter)
  | sql, [request] => .ok (.sql request)
  | _, _ => .error .usage

end CommandName

namespace Operands

def settle (o : Operands) : Option (Pending Unit) → Except Refusal Operands
  | none => .ok o
  | some ⟨_, none⟩ => .error .usage
  | some ⟨_, some value⟩ =>
      if o.filter.isSome then .error .usage else .ok { o with filter := some value }

def add (name : CommandName) (o : Operands) (s : String) : Except Refusal Operands :=
  if o.positional.length < name.arity then .ok { o with positional := o.positional ++ [s] }
  else .error .usage

def read (name : CommandName) (o : Operands) (pending : Option (Pending Unit)) (escaped : Bool) :
    List String → Except Refusal Operands
  | [] => o.settle pending
  | arg :: rest =>
      if escaped then do
        let o ← o.settle pending
        let o ← o.add name arg
        o.read name none true rest
      else
        match Word.ofString arg with
        | .escape => o.read name pending true rest
        | .long option value =>
            if option = "help" && value.isNone then
              match o.settle pending with
              | .ok _ => .error .information
              | .error r => .error r
            else if option = "where" && name.takesFilter then do
              let o ← o.settle pending
              match value with
              | none => o.read name (some ⟨(), none⟩) false rest
              | some v => do
                  let o ← o.settle (some ⟨(), some v⟩)
                  o.read name none false rest
            else .error .usage
        | .short c =>
            if c = 'h' then
              match o.settle pending with
              | .ok _ => .error .information
              | .error r => .error r
            else .error .usage
        | .plain s =>
            match pending with
            | some ⟨_, none⟩ => o.read name (some ⟨(), some s⟩) false rest
            | _ => do
                let o ← o.settle pending
                let o ← o.add name s
                o.read name none false rest

end Operands

def helpRefusal (topics : List String) : Refusal :=
  match topics with
  | [] => .information
  | [topic] =>
      if topic = "help" || (CommandName.ofString? topic).isSome then .information else .usage
  | _ => .usage

def readGlobals (g : Globals) (pending : Option (Pending GlobalOption)) :
    List String → Except Refusal Arguments
  | [] => .error .usage
  | arg :: rest =>
      match Word.ofString arg with
      | .escape => .error .usage
      | .long option value =>
          if (option = "help" || option = "version") && value.isNone then
            match g.settle pending with
            | .ok _ => .error .information
            | .error r => .error r
          else if option = "log-queries" && value.isNone then do
            let g ← g.settle pending
            if g.logQueries then .error .usage
            else readGlobals { g with logQueries := true } none rest
          else
            match GlobalOption.ofString? option with
            | none => .error .usage
            | some o => do
                let g ← g.settle pending
                match value with
                | none => readGlobals g (some ⟨o, none⟩) rest
                | some v => do
                    let g ← g.set o v
                    readGlobals g none rest
      | .short c =>
          if c = 'h' || c = 'V' then
            match g.settle pending with
            | .ok _ => .error .information
            | .error r => .error r
          else .error .usage
      | .plain s =>
          match pending with
          | some ⟨o, none⟩ => readGlobals g (some ⟨o, some s⟩) rest
          | _ =>
              if s = "help" then .error (helpRefusal rest)
              else
                match CommandName.ofString? s with
                | none => .error .usage
                | some name => do
                    let o ← Operands.read name ⟨[], none⟩ none false rest
                    let c ← name.command? o
                    let g ← g.settle pending
                    .ok (g.arguments c)

def Arguments.read (argv : List String) : Except Refusal Arguments :=
  readGlobals .none none argv

end Querysmith.CommandLine
