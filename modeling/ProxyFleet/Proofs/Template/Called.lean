import ProxyFleet.Proofs.Template.Reading
import ProxyFleet.Template.Eval

/-!
The functions that a template calls, wherever in it they are named. Reading admits only functions
that are defined, and takes their names from the text. Evaluation looks up no other names, so that
it never meets a function that is not defined, and what it gives depends on no other functions.
-/

namespace ProxyFleet.Template

mutual

def Operand.called : Operand → List String
  | .dot => []
  | .field _ => []
  | .function name => [name]
  | .literal _ => []
  | .group commands _ => calledInPipeline commands

def calledInCommand : List Operand → List String
  | [] => []
  | o :: rest => o.called ++ calledInCommand rest

def calledInPipeline : List (List Operand) → List String
  | [] => []
  | command :: rest => calledInCommand command ++ calledInPipeline rest

end

def Node.called : Node → List String
  | .text _ => []
  | .action pipeline => calledInPipeline pipeline

def called (nodes : List Node) : List String := nodes.flatMap Node.called

theorem calledInCommand_append (os more : List Operand) :
    calledInCommand (os ++ more) = calledInCommand os ++ calledInCommand more := by
  induction os with
  | nil => rfl
  | cons o rest ih => simp only [List.cons_append, calledInCommand, ih, List.append_assoc]

theorem calledInPipeline_append (cs more : List (List Operand)) :
    calledInPipeline (cs ++ more) = calledInPipeline cs ++ calledInPipeline more := by
  induction cs with
  | nil => rfl
  | cons c rest ih => simp only [List.cons_append, calledInPipeline, ih, List.append_assoc]

@[simp] theorem calledInCommand_singleton (o : Operand) : calledInCommand [o] = o.called := by
  simp only [calledInCommand, List.append_nil]

@[simp] theorem calledInPipeline_singleton (command : List Operand) :
    calledInPipeline [command] = calledInCommand command := by
  simp only [calledInPipeline, List.append_nil]

/-! What is read is called only by names that are defined and stand in the text. -/

namespace Partial

def called (p : Partial) : List String := calledInPipeline p.commands ++ calledInCommand p.operands

theorem called_new : ({} : Partial).called = [] := rfl

theorem called_add (p : Partial) (o : Operand) : (p.add o).called = p.called ++ o.called := by
  simp only [called, add, calledInCommand_append, calledInCommand_singleton, List.append_assoc]

/-- A path that is followed in a result calls nothing. -/
theorem called_chain (p : Partial) (path : List String) : (p.chain path).called = p.called := by
  unfold chain
  split
  · next commands inner hlast =>
    obtain ⟨front, hfront⟩ := List.getLast?_eq_some_iff.1 hlast
    simp only [called, hfront, List.dropLast_concat, calledInCommand_append,
      calledInCommand_singleton, Operand.called]
  · rfl

theorem called_pipe (p : Partial) :
    (⟨p.commands ++ [p.operands], []⟩ : Partial).called = p.called := by
  simp [called, calledInPipeline_append, calledInCommand]

theorem called_finish {p : Partial} {offset : Nat} {pipeline : Pipeline}
    (h : p.finish offset = .ok pipeline) : calledInPipeline pipeline = p.called := by
  unfold finish at h
  split at h
  · cases h
  · cases h
    simp only [called, calledInPipeline_append, calledInPipeline_singleton]

end Partial

def Lexemes.names : Lexemes → List String
  | .closed _ _ => []
  | .broken _ => []
  | .next l rest =>
    match l.item with
    | .ident name => name :: rest.names
    | _ => rest.names

theorem Lexemes.mem_names_next_iff {l : Lexeme} {rest : Lexemes} {name : String} :
    name ∈ (next l rest).names ↔ l.item = .ident name ∨ name ∈ rest.names := by
  cases hl : l.item <;> simp [names, hl, eq_comm]

/-- What is put together calls what its parts called before, and names among the lexemes that are
defined. -/
theorem forall_called_assemble {P : String → Prop} {fs : Functions} {outer : List Partial}
    {current : Partial} {chained : Bool} {ls : Lexemes} {pipeline : Pipeline}
    (houter : ∀ p ∈ outer, ∀ name ∈ p.called, P name) (hcurrent : ∀ name ∈ current.called, P name)
    (hnames : ∀ name ∈ ls.names, fs.defines name = true → P name)
    (h : assemble fs outer current chained ls = .ok pipeline) :
    ∀ name ∈ calledInPipeline pipeline, P name := by
  -- Every lexeme moves names between the stack and what is current, or adds one.
  induction ls generalizing outer current chained with
  | broken e => cases h
  | closed last after =>
    simp only [assemble] at h
    split at h
    · rwa [Partial.called_finish h]
    · cases h
  | next l rest ih =>
    have hrest (name : String) (hname : name ∈ rest.names) :=
      hnames name (Lexemes.mem_names_next_iff.2 (Or.inr hname))
    cases hitem : l.item with
    | pipe =>
      simp only [assemble, hitem] at h
      split at h
      · cases h
      · exact ih houter (by rwa [Partial.called_pipe]) hrest h
    | opening =>
      simp only [assemble, hitem] at h
      exact ih (List.forall_mem_cons.2 ⟨hcurrent, houter⟩) (by simp [Partial.called_new]) hrest h
    | closing =>
      cases outer with
      | nil => simp [assemble, hitem] at h
      | cons enclosing outer =>
        obtain ⟨henclosing, houter⟩ := List.forall_mem_cons.1 houter
        simp only [assemble, hitem] at h
        split at h
        · cases h
        · next commands hfinish =>
          refine ih houter ?_ hrest h
          rw [Partial.called_add, List.forall_mem_append]
          refine ⟨henclosing, ?_⟩
          rwa [Operand.called, Partial.called_finish hfinish]
    | field path =>
      simp only [assemble, hitem] at h
      split at h
      · split at h
        · cases h
        · exact ih houter (by rwa [Partial.called_chain]) hrest h
      · refine ih houter ?_ hrest h
        rw [Partial.called_add]
        split <;> simpa only [Operand.called, List.append_nil] using hcurrent
    | ident name =>
      simp only [assemble, hitem] at h
      split at h
      · next hdefined =>
        refine ih houter ?_ hrest h
        rw [Partial.called_add, List.forall_mem_append]
        refine ⟨hcurrent, ?_⟩
        simpa only [Operand.called, List.forall_mem_singleton] using
          hnames name (Lexemes.mem_names_next_iff.2 (Or.inl hitem)) hdefined
      · cases h
    | literal value =>
      simp only [assemble, hitem] at h
      refine ih houter ?_ hrest h
      rw [Partial.called_add]
      simpa only [Operand.called, List.append_nil] using hcurrent
    | stop =>
      simp only [assemble, hitem] at h
      exact ih houter hcurrent hrest h

/-! Where names come from. -/

theorem name_infix_of_scan {c after : Cursor} {l : Lexeme} {name : String}
    (h : scan c = .ok (l, after)) (hl : l.item = .ident name) : name.toList <:+: c.rest := by
  obtain ⟨ch, rest, n, hrest, hitem, _, _⟩ := scan_eq_ok h
  rw [hl] at hitem
  have hname : name.toList <+: c.skipBlanks.rest := hrest ▸ fronts_of_item hitem
  exact hname.isInfix.trans (Cursor.rest_advance_suffix _ _).isInfix

namespace Lexemes

theorem name_infix_of_read {c : Cursor} {name : String} (h : name ∈ (read c).names) :
    name.toList <:+: c.rest := by
  fun_induction read c with
  | case1 c e hscan => cases h
  | case2 c l rest hscan hstop => cases h
  | case3 c l rest hscan hstop ih =>
    rcases mem_names_next_iff.1 h with hl | h
    · exact name_infix_of_scan hscan hl
    · exact (ih h).trans (rest_scan_suffix hscan).isInfix

end Lexemes

section Reading

variable {fs : Functions}

/-- An action calls only what is defined, by names that stand in it. -/
theorem forall_called_action {c after : Cursor} {pipeline : Pipeline}
    (h : action fs c = .ok (some pipeline, after)) :
    ∀ name ∈ calledInPipeline pipeline, fs.defines name = true ∧ name.toList <:+: c.rest := by
  simp only [action] at h
  split at h
  · cases h
  · split at h <;> cases h
  · split at h
    · cases h
    · next hassemble =>
      cases h
      refine forall_called_assemble ?_ ?_ ?_ hassemble
      · exact List.forall_mem_nil _
      · exact List.forall_mem_nil _
      · exact fun name hname hdefined => ⟨hdefined, Lexemes.name_infix_of_read hname⟩

theorem called_append (ns more : List Node) : called (ns ++ more) = called ns ++ called more :=
  List.flatMap_append

theorem called_textNode (text : List Char) : called (textNode text) = [] := by
  unfold textNode
  split <;> rfl

theorem called_action (pipeline : Option Pipeline) :
    called (pipeline.map Node.action).toList = (pipeline.map calledInPipeline).getD [] := by
  cases pipeline <;> simp [called, Node.called]

theorem forall_called_nodes {c : Cursor} {ns : List Node} (h : nodes fs c = .ok ns) :
    ∀ name ∈ called ns, fs.defines name = true ∧ name.toList <:+: c.rest := by
  fun_induction nodes fs c generalizing ns with
  | case1 c hcut =>
    cases h
    simp [called_textNode]
  | case2 c text behind hcut opened trims e => cases h
  | case3 c text behind hcut opened trims pipeline after haction e hrest => cases h
  | case4 c text behind hcut opened trims before pipeline after haction rest hrest =>
    rename_i ih
    cases h
    have haction : action fs (c.enter text) = .ok (pipeline, after) := haction
    have henter := (c.rest_enter_suffix text).isInfix
    simp only [before, called_append, called_textNode, List.nil_append, List.forall_mem_append]
    constructor
    · cases pipeline with
      | none => exact List.forall_mem_nil _
      | some pipeline =>
        intro name hname
        rw [called_action] at hname
        obtain ⟨hdefined, hin⟩ := forall_called_action haction name hname
        exact ⟨hdefined, hin.trans henter⟩
    · intro name hname
      obtain ⟨hdefined, hin⟩ := ih hrest name hname
      exact ⟨hdefined, (hin.trans (rest_action_suffix haction).isInfix).trans henter⟩

theorem forall_called_parse {text : String} {ns : List Node} (h : parse fs text = .ok ns) :
    ∀ name ∈ called ns, fs.defines name = true ∧ name.toList <:+: text.toList :=
  forall_called_nodes h

end Reading

/-! Evaluation looks up the names that are called, and no others. -/

/-- Not for want of a function. -/
def Supplied {α : Type} (x : Except EvalError α) : Prop :=
  ∀ name, x ≠ .error (.undefinedFunction name)

section Evaluation

variable {fs fs' : Functions} {data : Json}

theorem supplied_ok {α : Type} (a : α) : Supplied (.ok a : Except EvalError α) := nofun

theorem Supplied.bind {α β : Type} {x : Except EvalError α} {f : α → Except EvalError β}
    (hx : Supplied x) (hf : ∀ a, x = .ok a → Supplied (f a)) : Supplied (x >>= f) := by
  cases x with
  | error e => exact fun name h => hx name (congrArg _ (Except.error.inj h))
  | ok a => exact hf a rfl

theorem supplied_follow (value : Json) (path : List String) : Supplied (follow value path) := by
  fun_induction follow value path with
  | case1 => exact supplied_ok _
  | case2 name rest members inner hlookup ih => exact ih
  | case3 => nofun
  | case4 => nofun
  | case5 => nofun

theorem supplied_indexOne (value key : Json) : Supplied (indexOne value key) := by
  unfold indexOne
  split
  · split <;> nofun
  all_goals nofun

theorem supplied_index (args : List Json) : Supplied (index args) := by
  cases args with
  | nil => nofun
  | cons value keys =>
    rw [index]
    induction keys generalizing value with
    | nil => exact supplied_ok value
    | cons key rest ih => exact (supplied_indexOne value key).bind fun inner _ => ih inner

theorem supplied_length (args : List Json) : Supplied (length args) := by
  unfold length
  split <;> nofun

theorem supplied_call {name : String} (h : fs.defines name = true) (args : List Json) :
    Supplied (call fs name args) := by
  unfold call
  split
  · split <;> nofun
  · next hfind =>
    have hbuiltin : name ∈ builtins := by
      simpa [Functions.defines, hfind] using h
    simp only [builtins, List.mem_cons, List.not_mem_nil, or_false] at hbuiltin
    rcases hbuiltin with rfl | rfl | rfl
    · exact supplied_index args
    · exact supplied_length args
    · exact supplied_ok _

mutual

theorem supplied_evalOperand (o : Operand) (h : ∀ name ∈ o.called, fs.defines name = true) :
    Supplied (evalOperand fs data o) := by
  match o with
  | .dot => exact supplied_ok data
  | .field path => exact supplied_follow data path
  | .function name => exact supplied_call (h name (List.mem_singleton_self name)) []
  | .literal value => exact supplied_ok value
  | .group commands path =>
    exact (supplied_evalPipeline commands none h).bind fun value _ => supplied_follow _ path

theorem supplied_evalOperands (os : List Operand)
    (h : ∀ name ∈ calledInCommand os, fs.defines name = true) :
    Supplied (evalOperands fs data os) := by
  match os with
  | [] => exact supplied_ok []
  | o :: rest =>
    obtain ⟨ho, hrest⟩ := List.forall_mem_append.1 h
    refine (supplied_evalOperand o ho).bind fun value _ => ?_
    exact (supplied_evalOperands rest hrest).bind fun values _ => supplied_ok _

theorem supplied_evalCommand (command : List Operand) (piped : Option Json)
    (h : ∀ name ∈ calledInCommand command, fs.defines name = true) :
    Supplied (evalCommand fs data piped command) := by
  match command with
  | [] => exact supplied_ok _
  | first :: rest =>
    obtain ⟨hfirst, hrest⟩ := List.forall_mem_append.1 h
    unfold evalCommand
    split
    · next name =>
      refine (supplied_evalOperands rest hrest).bind fun args _ => ?_
      exact supplied_call (hfirst name (List.mem_singleton_self name)) _
    · split
      · nofun
      · exact supplied_evalOperand first hfirst

theorem supplied_evalPipeline (commands : List (List Operand)) (last : Option Json)
    (h : ∀ name ∈ calledInPipeline commands, fs.defines name = true) :
    Supplied (evalPipeline fs data commands last) := by
  match commands with
  | [] => exact supplied_ok last
  | command :: rest =>
    obtain ⟨hcommand, hrest⟩ := List.forall_mem_append.1 h
    refine (supplied_evalCommand command last hcommand).bind fun value _ => ?_
    exact supplied_evalPipeline rest (some value) hrest

end

theorem supplied_execute (ns : List Node) (h : ∀ name ∈ called ns, fs.defines name = true) :
    Supplied (execute fs data ns) := by
  induction ns with
  | nil => exact supplied_ok ""
  | cons node rest ih =>
    obtain ⟨hnode, hrest⟩ := List.forall_mem_append.1 h
    have htext : Supplied (evalNode fs data node) := by
      cases node with
      | text s => exact supplied_ok s
      | action pipeline =>
        exact (supplied_evalPipeline pipeline none hnode).bind fun value _ => supplied_ok _
    exact htext.bind fun text _ => (ih hrest).bind fun more _ => supplied_ok _

/-- No other failure reads as if a function were not defined. -/
theorem EvalError.message_ne {e : EvalError} (h : ∀ name, e ≠ .undefinedFunction name)
    (name : String) : e.message ≠ (EvalError.undefinedFunction name).message := by
  -- The first character behind the common front tells the causes apart.
  have hcause : e.cause.toList.head? ≠ some 'f' := by
    unfold cause
    cases e with
    | undefinedFunction name => exact absurd rfl (h name)
    | _ => simp
  intro hmessage
  apply hcause
  have hlist := congrArg String.toList hmessage
  simp only [message, String.toList_append] at hlist
  rw [List.append_cancel_left hlist]
  unfold cause
  simp

theorem call_congr {name : String} (h : fs.find? name = fs'.find? name) (args : List Json) :
    call fs name args = call fs' name args := by
  unfold call
  rw [h]

mutual

theorem evalOperand_congr (o : Operand) (h : ∀ name ∈ o.called, fs.find? name = fs'.find? name) :
    evalOperand fs data o = evalOperand fs' data o := by
  match o with
  | .dot => rfl
  | .field path => rfl
  | .function name => exact call_congr (h name (List.mem_singleton_self name)) []
  | .literal value => rfl
  | .group commands path => rw [evalOperand, evalOperand, evalPipeline_congr commands none h]

theorem evalOperands_congr (os : List Operand)
    (h : ∀ name ∈ calledInCommand os, fs.find? name = fs'.find? name) :
    evalOperands fs data os = evalOperands fs' data os := by
  match os with
  | [] => rfl
  | o :: rest =>
    obtain ⟨ho, hrest⟩ := List.forall_mem_append.1 h
    rw [evalOperands, evalOperands, evalOperand_congr o ho, evalOperands_congr rest hrest]

theorem evalCommand_congr (command : List Operand) (piped : Option Json)
    (h : ∀ name ∈ calledInCommand command, fs.find? name = fs'.find? name) :
    evalCommand fs data piped command = evalCommand fs' data piped command := by
  match command with
  | [] => rfl
  | first :: rest =>
    obtain ⟨hfirst, hrest⟩ := List.forall_mem_append.1 h
    unfold evalCommand
    rw [evalOperands_congr rest hrest]
    split
    · next name =>
      have hcall := call_congr (hfirst name (List.mem_singleton_self name))
      simp only [hcall]
    · rw [evalOperand_congr _ hfirst]

theorem evalPipeline_congr (commands : List (List Operand)) (last : Option Json)
    (h : ∀ name ∈ calledInPipeline commands, fs.find? name = fs'.find? name) :
    evalPipeline fs data commands last = evalPipeline fs' data commands last := by
  match commands with
  | [] => rfl
  | command :: rest =>
    obtain ⟨hcommand, hrest⟩ := List.forall_mem_append.1 h
    have hlater (value : Json) := evalPipeline_congr rest (some value) hrest
    rw [evalPipeline, evalPipeline, evalCommand_congr command last hcommand]
    simp only [hlater]

end

/-- A template gives the same with functions that agree on the names it calls. -/
theorem execute_congr (ns : List Node) (h : ∀ name ∈ called ns, fs.find? name = fs'.find? name) :
    execute fs data ns = execute fs' data ns := by
  induction ns with
  | nil => rfl
  | cons node rest ih =>
    obtain ⟨hnode, hrest⟩ := List.forall_mem_append.1 h
    have htext : evalNode fs data node = evalNode fs' data node := by
      cases node with
      | text s => rfl
      | action pipeline => rw [evalNode, evalNode, evalPipeline_congr pipeline none hnode]
    rw [execute, execute, htext, ih hrest]

end Evaluation

/-- What is defined stays so when a function is added, which may hide it. -/
theorem defines_add {fs : Functions} {name : String} (h : fs.defines name = true) (added : String)
    (f : Function) : (fs.add added f).defines name = true := by
  simp only [Functions.defines, Functions.find?, Functions.add, List.lookup_cons] at h ⊢
  split
  · rfl
  · exact h

/-- A template that was read with some functions fails, with these or more, for other reasons than a
function that is not defined. -/
theorem execute_finds_functions {fs fs' : Functions} {text : String} {ns : List Node}
    (hread : parse fs text = .ok ns)
    (hmore : ∀ name, fs.defines name = true → fs'.defines name = true) (data : Json)
    {e : EvalError} (hfails : execute fs' data ns = .error e) (name : String) :
    e.message ≠ (EvalError.undefinedFunction name).message := by
  apply EvalError.message_ne
  rintro name rfl
  refine supplied_execute ns (fun called hcalled => ?_) name hfails
  exact hmore called (forall_called_parse hread called hcalled).1

/-- A builtin in parentheses fails in an argument of another, which has been hidden since. -/
theorem length_of_number_fails :
    ∃ ns e, parse Functions.none "to \x7b\x7b print (3 | len) \x7d\x7d" = .ok ns ∧
      (∀ name, Functions.none.defines name = true →
        (Functions.none.add "print" fun _ => .ok .null).defines name = true) ∧
      execute (Functions.none.add "print" fun _ => .ok .null) .null ns = .error e ∧
      ∀ name, e.message ≠ (EvalError.undefinedFunction name).message := by
  have hmore (name : String) (h : Functions.none.defines name = true) :=
    defines_add h "print" fun _ => .ok .null
  have hfails : ((parse Functions.none "to \x7b\x7b print (3 | len) \x7d\x7d").bind fun ns =>
      .ok (execute (Functions.none.add "print" fun _ => .ok .null) .null ns).isOk).toOption =
        some false := by
    decide +kernel
  cases hread : parse Functions.none "to \x7b\x7b print (3 | len) \x7d\x7d" with
  | error e => simp [hread, Except.bind, Except.toOption] at hfails
  | ok ns =>
    cases hexecute : execute (Functions.none.add "print" fun _ => .ok .null) .null ns with
    | ok text =>
      simp [hread, hexecute, Except.bind, Except.toOption, Except.isOk, Except.toBool] at hfails
    | error e =>
      exact ⟨ns, e, rfl, hmore, hexecute, execute_finds_functions hread hmore .null hexecute⟩

end ProxyFleet.Template
