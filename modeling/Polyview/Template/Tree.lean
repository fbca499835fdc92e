import Polyview.Template.Token

/-!
# The tree of a template

The tags that open and close blocks are matched, and what stands between them becomes the body and
the inverse of a block.
-/

namespace Polyview.Template

/-- A block that has been opened and not yet closed. -/
structure OpenBlock where
  /-- The place of the opening tag, or nothing for a block that continues another one. -/
  place : Option Place
  call : Call
  names : BlockNames
  /-- The elements before the block, backwards. -/
  outer : List Element
  /-- The body, once the inverse has begun. -/
  body : Option (List Element)

/-- The block, closed after the given elements, which are given backwards. -/
def OpenBlock.closed (block : OpenBlock) (elements : List Element) : Element :=
  match block.body with
  | none => .block block.place block.call block.names elements.reverse none
  | some body => .block block.place block.call block.names body (some elements.reverse)

/-- The blocks that are still open after the tag that closes a name, and the elements there. A block
that continues another one is closed together with it. -/
def closeBlocks (name : String) (elements : List Element) :
    List OpenBlock → Option (List OpenBlock × List Element)
  | [] => none
  | block :: blocks =>
      match block.place with
      | none => closeBlocks name [block.closed elements] blocks
      | some _ =>
          if block.call.helper = name then
            some (blocks, block.closed elements :: block.outer)
          else
            none

/-- The elements of tokens inside open blocks, innermost first. The elements before them are given
backwards. -/
def elementsOf (blocks : List OpenBlock) (elements : List Element) :
    List Token → Option (List Element)
  | [] => if blocks.isEmpty then some elements.reverse else none
  | .text text :: rest => elementsOf blocks (.text (String.ofList text) :: elements) rest
  | .tag tag :: rest =>
      match tag.marked.tag with
      | .output head => elementsOf blocks (.output tag.place head :: elements) rest
      | .helper call => elementsOf blocks (.helper tag.place call :: elements) rest
      | .comment => elementsOf blocks elements rest
      | .inclusion name arguments options =>
          elementsOf blocks
            (.inclusion tag.place name arguments options tag.indentation :: elements) rest
      | .raw call names body =>
          elementsOf blocks
            (.block (some tag.place) call names [.text (String.ofList body)] none :: elements) rest
      | .opening call names =>
          elementsOf (⟨some tag.place, call, names, elements, none⟩ :: blocks) [] rest
      | .otherwise =>
          match blocks with
          | ⟨place, call, names, outer, none⟩ :: blocks =>
              elementsOf (⟨place, call, names, outer, some elements.reverse⟩ :: blocks) [] rest
          | _ => none
      | .otherwiseCall call names =>
          match blocks with
          | ⟨place, outerCall, outerNames, outer, none⟩ :: blocks =>
              elementsOf
                (⟨none, call, names, [], none⟩ ::
                  ⟨place, outerCall, outerNames, outer, some elements.reverse⟩ :: blocks) [] rest
          | _ => none
      | .closing name =>
          match closeBlocks name elements blocks with
          | some (blocks, elements) => elementsOf blocks elements rest
          | none => none

/-- The elements of a template, unless its tags cannot be read or do not match. -/
def ofText? (text : String) : Option (List Element) := do
  let tokens ← tokens? text.toList
  elementsOf [] [] (trimTokens false false tokens)

end Polyview.Template
