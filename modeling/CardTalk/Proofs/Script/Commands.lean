/-
Reading blocks keeps every command, in order.

Each line of a script gives the tree at most one command (`Gives`): a line of no block is a
command itself, and the line of an `if` or `else` may have one at its end.  The commands of
the tree, the second part of an `if` after the first, are those that the lines give, in the
order of the lines: `commandsOf_blocks`.  Nothing is asked of the lines, so this holds of
scripts with blocks left open and with closers that close nothing.

The tree under construction is read in order too (`Reader.commands`): the finished nodes,
the open blocks from the outermost to the innermost, and last an `if` that waits for its
`else`.  One line adds at the end what it gives (`Reader.take_commands`).
-/
import CardTalk.Proofs.Script.Printing
import Mathlib.Data.List.ReduceOption

namespace CardTalk

/-! ### The command at the end of an `if` -/

namespace Script

open Search

namespace Line

/-- What follows `then` is shorter than the line. -/
theorem ifForm_first?_lt {t condition command : Text}
    (h : ifForm.first? t = some (condition, command)) : command.length < t.length := by
  rw [ifForm_eq] at h
  obtain ⟨t₁, hbehind, hrest⟩ := Option.bind_eq_some_iff.mp h
  obtain ⟨_, t₂, h₂, hrest⟩ := leaves_blanks1 hrest
  obtain ⟨c, t₃, h₃, hrest⟩ := leaves_oneOf inLine hrest
  have hthen : (do blanks1; word "then" : Search Unit).Leaves :=
    leaves_bind leaves_blanks1 fun _ => leaves_word "then"
  obtain ⟨part, t₄, h₄, hrest⟩ := leaves_upTo hthen hrest
  suffices hcommand : command.length ≤ t₄.length by
    obtain ⟨v, rfl, hv⟩ := eq_append_of_behind? hbehind
    have hv : v.length = 2 := by simpa using congrArg List.length hv
    have hlength := (h₄.trans (h₃.trans h₂)).length_le
    rw [List.length_append]
    omega
  rcases optional_cases hrest with hsome | hnone
  · obtain ⟨_, t₅, h₅, hsome⟩ := leaves_blanks1 hsome
    obtain ⟨-, rfl⟩ := Prod.mk.inj (Option.some.inj (accept_of_ending (accept_of_rest hsome)))
    refine (Text.length_trim_le _).trans ?_
    exact (List.takeWhile_prefix _).length_le.trans h₅.length_le
  · obtain ⟨-, rfl⟩ := Prod.mk.inj (Option.some.inj (accept_of_ending hnone))
    exact Nat.zero_le _

theorem ofText_command {t text : Text} (h : ofText t = .command text) : text = t := by
  unfold ofText at h
  split at h
  · split at h <;> exact nomatch h
  · split at h
    · exact nomatch h
    · split at h
      · exact nomatch h
      · split at h
        · exact nomatch h
        · split at h
          · exact nomatch h
          · exact (Line.command.inj h).symm

end Line

/-- A text comes to a command when every `if … then` before a command on the same line is
taken off it. -/
inductive ComesTo : Text → Text → Prop
  | plain {t : Text}
      (h : ∀ condition inner, Line.ifForm.first? t = some (condition, inner) → inner = []) :
      ComesTo t t
  | behindIf {t condition inner command : Text}
      (h : Line.ifForm.first? t = some (condition, inner)) (hinner : inner ≠ [])
      (hcommand : ComesTo inner command) : ComesTo t command

/-- What a line may give the tree: a line of no block itself, and a line of an `if` or `else`
the command at its end.  An `else` that belongs to no `if` gives nothing. -/
def Gives (line : Text) (given : Option Text) : Prop :=
  match Line.ofText line with
  | .command _ => given = some line
  | .opensIf _ command =>
    command = [] ∧ given = none ∨ command ≠ [] ∧ ∃ c, given = some c ∧ ComesTo command c
  | .isElse command => given = none ∨ ∃ c, given = some c ∧ ComesTo command c
  | .malformedIf _ | .endIf | .opensRepeat .. | .endRepeat => given = none

/-! ### The commands of a tree -/

mutual

/-- The commands of a node, in order. -/
def Node.commands : Node → List Text
  | .command t => [t]
  | .ifElse _ thenBody elseBody => commandsOf thenBody ++ commandsOf elseBody
  | .loop _ _ body => commandsOf body

/-- The commands of nodes, in order. -/
def commandsOf : List Node → List Text
  | [] => []
  | node :: rest => node.commands ++ commandsOf rest

end

theorem commandsOf_append (nodes nodes' : List Node) :
    commandsOf (nodes ++ nodes') = commandsOf nodes ++ commandsOf nodes' := by
  induction nodes with
  | nil => rfl
  | cons node nodes ih => rw [List.cons_append, commandsOf, commandsOf, ih, List.append_assoc]

theorem commandsOf_singleton (node : Node) : commandsOf [node] = node.commands := by
  rw [commandsOf, commandsOf, List.append_nil]

/-- A command on the line of an `if` or `else` is one command. -/
theorem Node.inline_commands (t : Text) : ∃ c, ComesTo t c ∧ (Node.inline t).commands = [c] := by
  suffices hfuel : ∀ fuel (t : Text), t.length ≤ fuel →
      ∃ c, ComesTo t c ∧ (Node.ofInline fuel t).commands = [c] from
    hfuel t.length t (Nat.le_refl _)
  intro fuel
  induction fuel with
  | zero =>
      intro t ht
      obtain rfl := List.eq_nil_of_length_eq_zero (Nat.le_zero.mp ht)
      exact ⟨[], .plain (fun _ _ h => nomatch h), rfl⟩
  | succ fuel ih =>
      intro t ht
      cases hform : Line.ifForm.first? t with
      | none =>
          refine ⟨t, .plain (fun _ _ h => nomatch hform.symm.trans h), ?_⟩
          rw [Node.ofInline, hform]
          rfl
      | some read =>
          obtain ⟨condition, inner⟩ := read
          by_cases hinner : inner = []
          · subst hinner
            refine ⟨t, .plain fun _ _ h => ?_, ?_⟩
            · exact (Prod.mk.inj (Option.some.inj (hform.symm.trans h))).2.symm
            · rw [Node.ofInline, hform]
              rfl
          · have hlt := Line.ifForm_first?_lt hform
            obtain ⟨c, hc, hcommands⟩ := ih inner (by omega)
            refine ⟨c, .behindIf hform hinner hc, ?_⟩
            have hempty : inner.isEmpty = false := by simpa using hinner
            simp only [Node.ofInline, hform, hempty]
            simp [Node.commands, commandsOf, hcommands]

/-! ### The commands of a tree under construction -/

/-- The commands of the first parts of `if`s that wait in links, the outermost first. -/
def Link.commandsOf : List Link → List Text
  | [] => []
  | l :: links => Link.commandsOf links ++ Script.commandsOf l.thenBody

theorem Node.wrap_commands (links : List Link) (node : Node) :
    (Node.wrap links node).commands = Link.commandsOf links ++ node.commands := by
  induction links generalizing node with
  | nil => rfl
  | cons l links ih =>
      have hwrap : Node.wrap (l :: links) node =
          Node.wrap links (.ifElse l.condition l.thenBody [node]) := rfl
      rw [hwrap, ih, Node.commands, commandsOf_singleton, Link.commandsOf, List.append_assoc]

namespace Frame

/-- The commands read into an open block and the links it has. -/
def commands : Frame → List Text
  | inThen links _ body => Link.commandsOf links ++ commandsOf body
  | inElse links _ thenBody body =>
    Link.commandsOf links ++ commandsOf thenBody ++ commandsOf body
  | inLoop _ _ body => commandsOf body

/-- The commands of open blocks, the outermost first. -/
def commandsAll : List Frame → List Text
  | [] => []
  | f :: rest => commandsAll rest ++ f.commands

theorem add_commands (f : Frame) (node : Node) :
    (f.add node).commands = f.commands ++ node.commands := by
  cases f <;> simp only [add, commands, commandsOf_append, commandsOf_singleton, List.append_assoc]

theorem node_commands (f : Frame) : f.node.commands = f.commands := by
  cases f with
  | inThen links condition body =>
      rw [node, Node.wrap_commands, Node.commands, commands, commandsOf, List.append_nil]
  | inElse links condition thenBody body =>
      rw [node, Node.wrap_commands, Node.commands, commands, List.append_assoc]
  | inLoop header form body => rw [node, Node.commands, commands]

end Frame

namespace Reader

/-- The commands of the finished nodes and the open blocks. -/
def placed (r : Reader) : List Text := commandsOf r.nodes ++ Frame.commandsAll r.frames

/-- The commands read so far, in order. -/
def commands (r : Reader) : List Text :=
  r.placed ++
    match r.waiting with
    | none => []
    | some w => Link.commandsOf w.links ++ commandsOf w.thenBody

theorem add_placed (r : Reader) (node : Node) :
    (r.add node).placed = r.placed ++ node.commands := by
  unfold add placed
  cases hframes : r.frames with
  | nil =>
      rw [commandsOf_append, commandsOf_singleton, Frame.commandsAll, List.append_nil,
        List.append_nil]
  | cons f rest =>
      simp only [Frame.commandsAll, Frame.add_commands, List.append_assoc]

theorem push_placed (r : Reader) (f : Frame) : (r.push f).placed = r.placed ++ f.commands := by
  simp only [push, placed, Frame.commandsAll, List.append_assoc]

theorem commands_of_waiting_none {r : Reader} (hr : r.waiting = none) : r.commands = r.placed := by
  rw [commands, hr, List.append_nil]

/-- The commands read so far are those behind an open block and those in it. -/
theorem commands_of_frames {r : Reader} (hr : r.waiting = none) {f : Frame} {rest : List Frame}
    (hframes : r.frames = f :: rest) :
    r.commands = ({ r with frames := rest } : Reader).commands ++ f.commands := by
  rw [commands_of_waiting_none hr, commands_of_waiting_none (r := { r with frames := rest }) hr,
    placed, hframes, Frame.commandsAll, placed, List.append_assoc]

section

variable {r : Reader} (hr : r.waiting = none)

include hr

theorem add_commands (node : Node) : (r.add node).commands = r.commands ++ node.commands := by
  have hadd : (r.add node).waiting = none := (add_waiting r node).trans hr
  rw [commands_of_waiting_none hadd, add_placed, commands_of_waiting_none hr]

theorem push_commands (f : Frame) : (r.push f).commands = r.commands ++ f.commands := by
  rw [commands_of_waiting_none (r := r.push f) hr, push_placed, commands_of_waiting_none hr]

/-- Closing an `if` adds its commands behind those of its links. -/
theorem closeIf_commands (node : Node) (closed : Bool) (links : List Link) :
    (r.closeIf node closed links).waiting = none ∧
      (r.closeIf node closed links).commands =
        r.commands ++ (Link.commandsOf links ++ node.commands) := by
  induction links generalizing node with
  | nil => exact ⟨(add_waiting r node).trans hr, add_commands hr node⟩
  | cons l links ih =>
      rw [closeIf]
      split
      · obtain ⟨hwaiting, hcommands⟩ := ih (.ifElse l.condition l.thenBody [node])
        refine ⟨hwaiting, ?_⟩
        rw [hcommands, Node.commands, commandsOf_singleton, Link.commandsOf, List.append_assoc]
      · refine ⟨hr, ?_⟩
        rw [push_commands hr, Frame.commands, commandsOf_singleton, Link.commandsOf]

/-- Opening an `if` adds the commands of its links and the one at the end of the line. -/
theorem openIf_commands (links : List Link) (condition command : Text) :
    ∃ given, (command = [] ∧ given = none ∨
        command ≠ [] ∧ ∃ c, given = some c ∧ ComesTo command c) ∧
      (r.openIf links condition command).commands =
        r.commands ++ (Link.commandsOf links ++ given.toList) := by
  by_cases hempty : command = []
  · refine ⟨none, .inl ⟨hempty, rfl⟩, ?_⟩
    subst hempty
    exact push_commands hr (.inThen links condition [])
  · obtain ⟨c, hc, hinline⟩ := Node.inline_commands command
    refine ⟨some c, .inr ⟨hempty, c, rfl, hc⟩, ?_⟩
    have hopen : r.openIf links condition command =
        { r with waiting := some ⟨links, condition, [.inline command]⟩ } := by
      rw [openIf, if_neg (by simpa using hempty)]
    rw [hopen, commands_of_waiting_none hr]
    simp only [commands, commandsOf_singleton, hinline]
    rfl

/-- Going on to the second part of an `if` adds the commands of its links and of its first
part, and at most one at the end of the line. -/
theorem openElse_commands (links : List Link) (condition : Text) (thenBody : List Node)
    (command : Text) (awaitsEnd : Bool) :
    ∃ given, (given = none ∨ ∃ c, given = some c ∧ ComesTo command c) ∧
      (r.openElse links condition thenBody command awaitsEnd).commands =
        r.commands ++ (Link.commandsOf links ++ commandsOf thenBody ++ given.toList) := by
  rw [openElse]
  split
  · exact ⟨none, .inl rfl, push_commands hr _⟩
  · split
    · rename_i inner innerCommand hform
      obtain ⟨given, hgiven, hcommands⟩ :=
        openIf_commands hr (⟨condition, thenBody, awaitsEnd⟩ :: links) inner innerCommand
      refine ⟨given, ?_, hcommands⟩
      rcases hgiven with ⟨-, rfl⟩ | ⟨hne, c, rfl, hc⟩
      · exact .inl rfl
      · exact .inr ⟨c, rfl, .behindIf hform hne hc⟩
    · rename_i hform
      obtain ⟨c, hc, hinline⟩ := Node.inline_commands command
      refine ⟨some c, .inr ⟨c, rfl, hc⟩, ?_⟩
      split
      · rw [push_commands hr, Frame.commands, commandsOf_singleton, hinline]
        rfl
      · rw [(closeIf_commands hr _ _ _).2, Node.commands, commandsOf_singleton, hinline,
          List.append_assoc]
        rfl

/-- A line taken into an open block adds what it gives. -/
theorem takeIntoBlock_commands (line : Text) :
    ∃ given, Gives line given ∧
      (r.takeIntoBlock (Line.ofText line)).commands = r.commands ++ given.toList := by
  unfold Gives
  cases hline : Line.ofText line with
  | command text =>
      obtain rfl := Line.ofText_command hline
      exact ⟨some text, rfl, add_commands hr (.command text)⟩
  | opensIf condition command => exact openIf_commands hr [] condition command
  | malformedIf text => exact ⟨none, rfl, (List.append_nil _).symm⟩
  | opensRepeat header form => exact ⟨none, rfl, push_commands hr (.inLoop header form [])⟩
  | isElse command =>
      simp only [takeIntoBlock]
      split
      · rename_i links condition body rest hframes
        have hrest : ({ r with frames := rest } : Reader).waiting = none := hr
        obtain ⟨given, hgiven, hcommands⟩ :=
          openElse_commands hrest links condition body command true
        refine ⟨given, hgiven, hcommands.trans ?_⟩
        rw [← List.append_assoc, commands_of_frames hr hframes]
        rfl
      · exact ⟨none, .inl rfl, (List.append_nil _).symm⟩
  | endIf =>
      simp only [takeIntoBlock]
      refine ⟨none, rfl, ?_⟩
      split
      · rename_i links condition body rest hframes
        have hrest : ({ r with frames := rest } : Reader).waiting = none := hr
        rw [(closeIf_commands hrest _ _ _).2, commands_of_frames hr hframes, Node.commands,
          commandsOf, List.append_nil, Option.toList_none, List.append_nil, Frame.commands]
      · rename_i links condition thenBody body rest hframes
        have hrest : ({ r with frames := rest } : Reader).waiting = none := hr
        rw [(closeIf_commands hrest _ _ _).2, commands_of_frames hr hframes, Node.commands,
          Option.toList_none, List.append_nil, Frame.commands, List.append_assoc]
      · exact (List.append_nil _).symm
  | endRepeat =>
      simp only [takeIntoBlock]
      refine ⟨none, rfl, ?_⟩
      split
      · rename_i header form body rest hframes
        have hrest : ({ r with frames := rest } : Reader).waiting = none := hr
        rw [add_commands hrest, commands_of_frames hr hframes, Node.commands, Option.toList_none,
          List.append_nil, Frame.commands]
      · exact (List.append_nil _).symm

end

/-- **A line adds what it gives, behind all commands read so far.** -/
theorem take_commands (r : Reader) (line : Text) :
    ∃ given, Gives line given ∧
      (r.take (Line.ofText line)).commands = r.commands ++ given.toList := by
  cases hwaiting : r.waiting with
  | none =>
      rw [take, hwaiting]
      exact takeIntoBlock_commands hwaiting line
  | some w =>
      have hr : ({ r with waiting := none } : Reader).waiting = none := rfl
      have hcommands : r.commands = ({ r with waiting := none } : Reader).commands ++
          (Link.commandsOf w.links ++ commandsOf w.thenBody) := by
        rw [commands_of_waiting_none hr, commands, hwaiting]
        rfl
      rw [take, hwaiting, hcommands]
      dsimp only
      split
      · rename_i command hline
        obtain ⟨given, hgiven, helse⟩ :=
          openElse_commands hr w.links w.condition w.thenBody command false
        refine ⟨given, ?_, helse.trans (List.append_assoc ..).symm⟩
        rw [Gives, hline]
        exact hgiven
      · obtain ⟨hclosed, hclose⟩ :=
          closeIf_commands hr (.ifElse w.condition w.thenBody []) false w.links
        obtain ⟨given, hgiven, htake⟩ := takeIntoBlock_commands hclosed line
        refine ⟨given, hgiven, htake.trans ?_⟩
        rw [hclose, Node.commands, commandsOf, List.append_nil]

theorem foldl_take_commands (r : Reader) (lines : List Text) :
    ∃ given, List.Forall₂ Gives lines given ∧
      ((lines.map Line.ofText).foldl take r).commands = r.commands ++ given.reduceOption := by
  induction lines generalizing r with
  | nil => exact ⟨[], .nil, (List.append_nil _).symm⟩
  | cons line lines ih =>
      obtain ⟨first, hfirst, htake⟩ := take_commands r line
      obtain ⟨rest, hrest, hfold⟩ := ih (r.take (Line.ofText line))
      refine ⟨first :: rest, .cons hfirst hrest, ?_⟩
      rw [List.map_cons, List.foldl_cons, hfold, htake, List.append_assoc]
      cases first with
      | none => rfl
      | some c => rfl

/-- Closing the blocks that are open keeps their commands in order. -/
theorem closeAround_commands (nodes : List Node) (node : Node) (frames : List Frame) :
    commandsOf (closeAround nodes node frames) =
      commandsOf nodes ++ Frame.commandsAll frames ++ node.commands := by
  induction frames generalizing node with
  | nil =>
      rw [closeAround, commandsOf_append, commandsOf_singleton, Frame.commandsAll, List.append_nil]
  | cons f rest ih =>
      rw [closeAround, ih, Frame.node_commands, Frame.add_commands, Frame.commandsAll]
      simp only [List.append_assoc]

theorem finish_commands (r : Reader) : commandsOf r.finish = r.commands := by
  have hclose : ∀ r : Reader, commandsOf (match r.frames with
      | [] => r.nodes
      | f :: rest => closeAround r.nodes f.node rest) = r.placed := by
    intro r
    rw [placed]
    split
    · rename_i hframes
      rw [hframes, Frame.commandsAll, List.append_nil]
    · rename_i f rest hframes
      rw [hframes, closeAround_commands, Frame.node_commands, Frame.commandsAll,
        List.append_assoc]
  rw [finish, commands]
  cases r.waiting with
  | none =>
      rw [List.append_nil]
      exact hclose r
  | some w =>
      refine (hclose _).trans ?_
      rw [add_placed, Node.wrap_commands, Node.commands, commandsOf, List.append_nil]

end Reader

/-- **The commands of a tree are those that the lines give, in the order of the lines.**  Every
line of no block is one of them. -/
theorem commandsOf_blocks (lines : List Text) :
    ∃ given, List.Forall₂ Gives lines given ∧
      commandsOf (blocks lines) = given.reduceOption := by
  obtain ⟨given, hgiven, hfold⟩ := Reader.foldl_take_commands .start lines
  refine ⟨given, hgiven, ?_⟩
  rw [blocks, Reader.finish_commands, hfold]
  rfl

/-- Only commands are left of lines that open and close blocks in disorder. -/
example :
    commandsOf (blocks ["end if", "if x", "if a then put 1", "else if b then put 2", "repeat 3",
      "else put 3", "put 4", "if c then if d then put 5", "put 6"]) =
      ["put 1", "put 2", "put 4", "put 5", "put 6"] := by
  decide +kernel

end Script

end CardTalk
