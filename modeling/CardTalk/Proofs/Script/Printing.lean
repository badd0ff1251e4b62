/-
Block reading undoes block printing.

A tree is printed one line for each command and for each word that opens, parts or closes a
block; the ways to do so are the relation `Prints`.  Whatever tree was printed is what is
read back, and the lines after it are read as if they stood alone: `blocks_append`.

The induction is over the printing.  What carries it is where reading stands: with nothing
waiting for an `else`, lines of a printed tree add exactly its nodes to the innermost open
block, whatever that is (`Prints.takeAll`); and the second part of an `if` with its
`end if` closes that `if`, with all the links it has (`PrintsElse.takeAll`).
-/
import CardTalk.Proofs.Script.Line
import CardTalk.Script.Block

namespace CardTalk.Script

/-! ### Printing -/

mutual

/-- The lines are a printing of the nodes. -/
inductive Prints : List Node → List Text → Prop
  | nil : Prints [] []
  | command {text : Text} {nodes : List Node} {lines : List Text}
      (htext : Line.ofText text = .command text) (hrest : Prints nodes lines) :
      Prints (.command text :: nodes) (text :: lines)
  | ifElse {condition : Text} {thenBody elseBody nodes : List Node}
      {thenLines elseLines lines : List Text} (hcondition : IsCondition condition)
      (hthen : Prints thenBody thenLines) (helse : PrintsElse elseBody elseLines)
      (hrest : Prints nodes lines) :
      Prints (.ifElse condition thenBody elseBody :: nodes)
        (ifLine condition :: thenLines ++ elseLines ++ "end if".toList :: lines)
  | loop {header : Text} {body nodes : List Node} {bodyLines lines : List Text}
      (hheader : Line.ofText header = .opensRepeat header (Loop.ofHeader header))
      (hbody : Prints body bodyLines) (hrest : Prints nodes lines) :
      Prints (.loop header (Loop.ofHeader header) body :: nodes)
        (header :: bodyLines ++ "end repeat".toList :: lines)

/-- The lines are a printing of the second part of an `if`, up to its `end if`. -/
inductive PrintsElse : List Node → List Text → Prop
  /-- An empty part need not be printed. -/
  | omitted : PrintsElse [] []
  | nested {body : List Node} {lines : List Text} (hbody : Prints body lines) :
      PrintsElse body ("else".toList :: lines)
  /-- A part that is one `if` can share its `end if`. -/
  | chained {condition : Text} {thenBody elseBody : List Node} {thenLines elseLines : List Text}
      (hcondition : IsCondition condition) (hthen : Prints thenBody thenLines)
      (helse : PrintsElse elseBody elseLines) :
      PrintsElse [.ifElse condition thenBody elseBody]
        (("else ".toList ++ ifLine condition) :: thenLines ++ elseLines)

end

/-! ### Adding nodes -/

namespace Frame

/-- The block with more nodes. -/
def addAll (f : Frame) (nodes : List Node) : Frame := nodes.foldl (fun f node => f.add node) f

theorem addAll_inThen (links : List Link) (condition : Text) (body nodes : List Node) :
    (inThen links condition body).addAll nodes = inThen links condition (body ++ nodes) := by
  induction nodes generalizing body with
  | nil => rw [List.append_nil]; rfl
  | cons node nodes ih => exact (ih _).trans (by rw [List.append_assoc]; rfl)

theorem addAll_inElse (links : List Link) (condition : Text) (thenBody body nodes : List Node) :
    (inElse links condition thenBody body).addAll nodes =
      inElse links condition thenBody (body ++ nodes) := by
  induction nodes generalizing body with
  | nil => rw [List.append_nil]; rfl
  | cons node nodes ih => exact (ih _).trans (by rw [List.append_assoc]; rfl)

theorem addAll_inLoop (header : Text) (form : Loop) (body nodes : List Node) :
    (inLoop header form body).addAll nodes = inLoop header form (body ++ nodes) := by
  induction nodes generalizing body with
  | nil => rw [List.append_nil]; rfl
  | cons node nodes ih => exact (ih _).trans (by rw [List.append_assoc]; rfl)

end Frame

namespace Reader

/-- Takes lines one after another. -/
def takeAll (r : Reader) (lines : List Text) : Reader := (lines.map Line.ofText).foldl take r

/-- Adds nodes to the innermost open block. -/
def addAll (r : Reader) (nodes : List Node) : Reader := nodes.foldl add r

theorem takeAll_append (r : Reader) (lines lines' : List Text) :
    r.takeAll (lines ++ lines') = (r.takeAll lines).takeAll lines' := by
  rw [takeAll, List.map_append, List.foldl_append]
  rfl

theorem takeAll_cons {r : Reader} (hr : r.waiting = none) (line : Text) (lines : List Text) :
    r.takeAll (line :: lines) = (r.takeIntoBlock (Line.ofText line)).takeAll lines := by
  have htake : r.take (Line.ofText line) = r.takeIntoBlock (Line.ofText line) := by
    rw [take, hr]
  rw [takeAll, List.map_cons, List.foldl_cons, htake]
  rfl

theorem addAll_push (r : Reader) (f : Frame) (nodes : List Node) :
    (r.push f).addAll nodes = r.push (f.addAll nodes) := by
  induction nodes generalizing f with
  | nil => rfl
  | cons node nodes ih => exact ih (f.add node)

theorem add_waiting (r : Reader) (node : Node) : (r.add node).waiting = r.waiting := by
  unfold add
  split <;> rfl

theorem addAll_start (nodes : List Node) : start.addAll nodes = ⟨none, [], nodes⟩ := by
  suffices hall : ∀ before, addAll ⟨none, [], before⟩ nodes = ⟨none, [], before ++ nodes⟩ from
    hall []
  induction nodes with
  | nil => exact fun before => by rw [List.append_nil]; rfl
  | cons node nodes ih => exact fun before => (ih _).trans (by rw [List.append_assoc]; rfl)

end Reader

/-! ### Reading what was printed -/

open Reader

mutual

/-- Printed lines add their nodes to the innermost open block. -/
theorem Prints.takeAll {nodes : List Node} {lines : List Text} (h : Prints nodes lines)
    {r : Reader} (hr : r.waiting = none) : r.takeAll lines = r.addAll nodes := by
  have hpush : ∀ f, (r.push f).waiting = none := fun _ => hr
  have hadd : ∀ node, (r.add node).waiting = none := fun node => (add_waiting r node).trans hr
  cases h with
  | nil => rfl
  | command htext hrest =>
      rw [takeAll_cons hr, htext]
      exact hrest.takeAll (hadd _)
  | @ifElse condition thenBody elseBody nodes thenLines elseLines lines hcondition hthen helse
      hrest =>
      have hlines : ifLine condition :: thenLines ++ elseLines ++ "end if".toList :: lines =
          ifLine condition :: (thenLines ++ ((elseLines ++ ["end if".toList]) ++ lines)) := by
        simp only [List.append_assoc, List.cons_append, List.nil_append]
      rw [hlines, takeAll_cons hr, Line.ofText_ifLine hcondition, takeAll_append]
      change ((r.push (.inThen [] condition [])).takeAll thenLines).takeAll _ = _
      rw [hthen.takeAll (hpush _), addAll_push, Frame.addAll_inThen, takeAll_append,
        helse.takeAll hr]
      exact hrest.takeAll (hadd _)
  | @loop header body nodes bodyLines lines hheader hbody hrest =>
      have hlines : header :: bodyLines ++ "end repeat".toList :: lines =
          header :: (bodyLines ++ ("end repeat".toList :: lines)) := rfl
      rw [hlines, takeAll_cons hr, hheader, takeAll_append]
      change ((r.push (.inLoop header _ [])).takeAll bodyLines).takeAll _ = _
      rw [hbody.takeAll (hpush _), addAll_push, Frame.addAll_inLoop, takeAll_cons (hpush _),
        Line.ofText_endRepeat]
      exact hrest.takeAll (hadd _)
termination_by lines.length

/-- The second part of an `if` and an `end if` close the `if` with all its links. -/
theorem PrintsElse.takeAll {elseBody : List Node} {lines : List Text}
    (h : PrintsElse elseBody lines) {r : Reader} (hr : r.waiting = none) (links : List Link)
    (condition : Text) (thenBody : List Node) :
    (r.push (.inThen links condition thenBody)).takeAll (lines ++ ["end if".toList]) =
      r.closeIf (.ifElse condition thenBody elseBody) true links := by
  have hpush : ∀ f, (r.push f).waiting = none := fun _ => hr
  cases h with
  | omitted => exact takeAll_cons (hpush _) "end if".toList []
  | @nested _ lines hbody =>
      have hlines : "else".toList :: lines ++ ["end if".toList] =
          "else".toList :: (lines ++ ["end if".toList]) := rfl
      rw [hlines, takeAll_cons (hpush _), Line.ofText_else, takeAll_append]
      change ((r.push (.inElse links condition thenBody [])).takeAll lines).takeAll _ = _
      rw [hbody.takeAll (hpush _), addAll_push, Frame.addAll_inElse]
      exact takeAll_cons (hpush _) "end if".toList []
  | @chained inner innerThen innerElse thenLines elseLines hcondition hthen helse =>
      have hlines :
          ("else ".toList ++ ifLine inner) :: thenLines ++ elseLines ++ ["end if".toList] =
          ("else ".toList ++ ifLine inner) :: (thenLines ++ (elseLines ++ ["end if".toList])) := by
        simp only [List.append_assoc, List.cons_append]
      rw [hlines, takeAll_cons (hpush _), Line.ofText_elseIfLine hcondition, takeAll_append]
      have hopen :
          (r.push (.inThen links condition thenBody)).takeIntoBlock (.isElse (ifLine inner)) =
            r.push (.inThen (⟨condition, thenBody, true⟩ :: links) inner []) := by
        change r.openElse links condition thenBody (ifLine inner) true = _
        have hne : (ifLine inner).isEmpty = false := rfl
        rw [openElse, hne, Line.ifForm_first? hcondition]
        rfl
      rw [hopen, hthen.takeAll (hpush _), addAll_push, Frame.addAll_inThen, helse.takeAll hr]
      rfl
termination_by lines.length

end

/-! ### Reading behind finished nodes -/

namespace Reader

/-- Reading as far as `r`, behind nodes that were finished earlier. -/
def behind (before : List Node) (r : Reader) : Reader := { r with nodes := before ++ r.nodes }

variable (before : List Node) (r : Reader)

theorem add_behind (node : Node) : (r.behind before).add node = (r.add node).behind before := by
  unfold add behind
  cases r.frames with
  | nil => simp only [List.append_assoc]
  | cons f rest => rfl

theorem closeIf_behind (node : Node) (closed : Bool) (links : List Link) :
    (r.behind before).closeIf node closed links = (r.closeIf node closed links).behind before := by
  induction links generalizing node with
  | nil => exact add_behind ..
  | cons l links ih =>
      rw [closeIf, closeIf]
      split
      · exact ih _
      · rfl

theorem openIf_behind (links : List Link) (condition command : Text) :
    (r.behind before).openIf links condition command =
      (r.openIf links condition command).behind before := by
  unfold openIf
  split <;> rfl

theorem openElse_behind (links : List Link) (condition : Text) (thenBody : List Node)
    (command : Text) (awaitsEnd : Bool) :
    (r.behind before).openElse links condition thenBody command awaitsEnd =
      (r.openElse links condition thenBody command awaitsEnd).behind before := by
  unfold openElse
  split
  · rfl
  · split
    · exact openIf_behind ..
    · split
      · rfl
      · exact closeIf_behind ..

theorem takeIntoBlock_behind (line : Line) :
    (r.behind before).takeIntoBlock line = (r.takeIntoBlock line).behind before := by
  have hframes : (r.behind before).frames = r.frames := rfl
  cases line with
  | command text => exact add_behind ..
  | opensIf condition command => exact openIf_behind ..
  | malformedIf text => rfl
  | opensRepeat header form => rfl
  | isElse command =>
      simp only [takeIntoBlock, hframes]
      split
      · exact openElse_behind before { r with frames := _ } ..
      · rfl
  | endIf =>
      simp only [takeIntoBlock, hframes]
      split
      · exact closeIf_behind before { r with frames := _ } ..
      · exact closeIf_behind before { r with frames := _ } ..
      · rfl
  | endRepeat =>
      simp only [takeIntoBlock, hframes]
      split
      · exact add_behind before { r with frames := _ } ..
      · rfl

theorem take_behind (line : Line) :
    (r.behind before).take line = (r.take line).behind before := by
  have hwaiting : (r.behind before).waiting = r.waiting := rfl
  unfold take
  rw [hwaiting]
  cases r.waiting with
  | none => exact takeIntoBlock_behind ..
  | some w =>
      dsimp only
      split
      · exact openElse_behind before { r with waiting := none } ..
      · rw [← takeIntoBlock_behind, ← closeIf_behind]
        rfl

theorem takeAll_behind (lines : List Text) :
    (r.behind before).takeAll lines = (r.takeAll lines).behind before := by
  induction lines generalizing r with
  | nil => rfl
  | cons line lines ih =>
      change ((r.behind before).take _).takeAll lines = _
      rw [take_behind, ih]
      rfl

theorem closeAround_append (nodes : List Node) (node : Node) (frames : List Frame) :
    closeAround (before ++ nodes) node frames = before ++ closeAround nodes node frames := by
  induction frames generalizing node with
  | nil => exact List.append_assoc ..
  | cons f rest ih => exact ih _

theorem finish_behind : (r.behind before).finish = before ++ r.finish := by
  have hwaiting : (r.behind before).waiting = r.waiting := rfl
  unfold finish
  rw [hwaiting]
  cases r.waiting with
  | none =>
      dsimp only [behind]
      cases r.frames with
      | nil => rfl
      | cons f rest => exact closeAround_append ..
  | some w =>
      dsimp only
      rw [add_behind]
      dsimp only [behind]
      cases (r.add (.wrap w.links (.ifElse w.condition w.thenBody []))).frames with
      | nil => rfl
      | cons f rest => exact closeAround_append ..

end Reader

/-- **A printed tree is read back, whatever lines come after it.** -/
theorem blocks_append {nodes : List Node} {lines : List Text} (h : Prints nodes lines)
    (tail : List Text) : blocks (lines ++ tail) = nodes ++ blocks tail := by
  have hread : start.takeAll lines = start.behind nodes := by
    rw [h.takeAll rfl, addAll_start, behind, start, List.append_nil]
  change (start.takeAll (lines ++ tail)).finish = _
  rw [takeAll_append, hread, takeAll_behind, finish_behind]
  rfl

/-- A chain with a loop in its second part, before a closer that closes nothing. -/
theorem blocks_append_chained :
    let nodes : List Node :=
      [.ifElse "x > 1" [.command "put 1 into it"]
        [.ifElse "not y" [.loop "repeat 3 times" (.times "3") [.command "beep"]] [.command "beep"]]]
    let lines : List Text :=
      ["if x > 1 then", "put 1 into it", "else if not y then", "repeat 3 times", "beep",
        "end repeat", "else", "beep", "end if"]
    let tail : List Text := ["end if", "beep"]
    Prints nodes lines ∧ blocks (lines ++ tail) = nodes ++ [.command "beep"] := by
  intro nodes lines tail
  have houter : IsCondition "x > 1" := ⟨by decide, by decide, by decide, by decide⟩
  have hinner : IsCondition "not y" := ⟨by decide, by decide, by decide, by decide⟩
  have hbeep : Prints [.command "beep"] ["beep"] := .command rfl .nil
  have hloop : Prints [.loop "repeat 3 times" (.times "3") [.command "beep"]]
      ["repeat 3 times", "beep", "end repeat"] := .loop rfl hbeep .nil
  have hprints : Prints nodes lines :=
    .ifElse houter (.command rfl .nil) (.chained hinner hloop (.nested hbeep)) .nil
  exact ⟨hprints, blocks_append hprints tail⟩

end CardTalk.Script
