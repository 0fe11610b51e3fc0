import Harvest.Markup.Builder

/-!
Contract: where the tokens of a text go in the document.

`step` applies the rules of the current insertion mode to one token and answers
whether the token is to be applied once more, under the mode that is current then.
Missing elements are implied, elements that cannot stay open are closed, and
formatting elements closed too early are opened again.
-/

namespace Harvest.Markup

namespace Build

/-- The token has been dealt with. -/
def settled : Build Bool :=
  return false

/-- The token is applied once more, under another mode. -/
def again (mode : Mode) : Build Bool := do
  goto mode
  return true

def isSpaceText (text : List Char) : Bool :=
  text.all isSpace

/-- Characters without null characters. -/
def withoutNulls (text : List Char) : List Char :=
  text.filter fun character => character.toNat != 0

/-- Gives the outermost element the attributes of a further tag for it. -/
def mergeIntoRoot (tag : Tag) : Build Bool := do
  if !(← isOpen "template") then
    match (← get).stack.getLast? with
    | some root => mergeAttributes root tag.attributes
    | none => pure ()
  settled

/-- Runs the step that closes an element of formatting and what lies across its end. The bound is the
number of repetitions. -/
def closeFormatting (name : String) : (bound : Nat) → Build Unit
  | 0 => pure ()
  | bound + 1 => do
    let recent ← sinceBound
    match ← findNamed recent with
    | none => closeOther name
    | some formatting =>
      let stack := (← get).stack
      if !stack.contains formatting then dropFormatting formatting
      else if !(← isInScopeOf scopeBounds true fun node => return node == formatting) then pure ()
      else
        let above := stack.takeWhile (· != formatting)
        let special ← above.filterM isSpecial
        match special.getLast? with
        | none =>
          modify fun builder =>
            { builder with stack := (builder.stack.dropWhile (· != formatting)).drop 1 }
          dropFormatting formatting
        | some furthest =>
          let outer := (stack.dropWhile (· != formatting)).drop 1
          let ancestor := outer.headD 0
          let between := (above.dropWhile (· != furthest)).drop 1
          let (last, bookmark) ← cloneBetween furthest furthest none 1 between
          detach last
          attach (← placeIn ancestor) last
          match ← element? formatting with
          | none => pure ()
          | some element =>
            let fresh ← create (.element element)
            moveChildren furthest fresh
            attach (.inside furthest) fresh
            modify fun builder =>
              { builder with formatting := replaceEntry builder.formatting formatting fresh bookmark }
            modify fun builder =>
              { builder with
                stack := (builder.stack.filter (· != formatting)).flatMap fun node =>
                  if node = furthest then [fresh, node] else [node] }
            closeFormatting name bound
where
  findNamed : List Nat → Build (Option Nat)
    | [] => return none
    | node :: others => do
      if ← hasName name node then return some node else findNamed others
  /-- Clones the formatting elements between the block and the element that ends, innermost first; the
  others leave the open elements. Answers the node to move and the entry behind which the new one goes. -/
  cloneBetween (furthest last : Nat) (bookmark : Option Nat) (count : Nat) :
      List Nat → Build (Nat × Option Nat)
    | [] => return (last, bookmark)
    | node :: outer => do
      let isActive := (← get).formatting.contains (.element node)
      if isActive && count > 3 then
        dropFormatting node
        dropOpen node
        cloneBetween furthest last bookmark (count + 1) outer
      else if !isActive then
        dropOpen node
        cloneBetween furthest last bookmark (count + 1) outer
      else
        match ← element? node with
        | none => cloneBetween furthest last bookmark (count + 1) outer
        | some element =>
          let clone ← create (.element element)
          modify fun builder =>
            { builder with
              formatting := builder.formatting.map fun entry =>
                if entry = .element node then .element clone else entry
              stack := builder.stack.map fun entry => if entry = node then clone else entry }
          let bookmark := if last = furthest then some clone else bookmark
          attach (.inside clone) last
          cloneBetween furthest clone bookmark (count + 1) outer
  /-- Puts an entry in place of a former one, or just inside the bookmark. -/
  replaceEntry (entries : List Formatting) (former fresh : Nat) (bookmark : Option Nat) : List Formatting :=
    match bookmark with
    | none => entries.map fun entry => if entry = .element former then .element fresh else entry
    | some mark =>
      (entries.filter (· != .element former)).flatMap fun entry =>
        if entry = .element mark then [.element fresh, entry] else [entry]
  /-- Closes the innermost open element with a name, unless a special element lies inside it. -/
  closeOther (name : String) : Build Unit := do
    let rec go : List Nat → Build (Option (List Nat))
      | [] => return none
      | node :: outer => do
        if ← hasName name node then return some outer
        else if ← isSpecial node then return none
        else go outer
    match ← go (← get).stack with
    | some rest => modify fun builder => { builder with stack := rest }
    | none => pure ()

/-- The end tag of an element that has no rule of its own. -/
def closeOrdinary (name : String) : Build Unit :=
  closeFormatting.closeOther name

def endFormatting (name : String) : Build Unit := do
  match ← current? with
  | some node =>
    if (← hasName name node) && !(← get).formatting.contains (.element node) then closeCurrent
    else closeFormatting name 8
  | none => pure ()

/-- Has the content of an element read as raw text. -/
def openRaw (content : ContentMode) (tag : Tag) : Build Bool := do
  let _ ← openTag tag
  readRaw content
  settled

/-- The rules for what the head of a document holds. -/
def inHead (token : Token) : Build Bool := do
  match token with
  | .characters text =>
    if isSpaceText text then
      insertText text
      settled
    else leave
  | .comment text =>
    insertComment text
    settled
  | .doctype _ => settled
  | .startTag tag =>
    match tag.name with
    | "html" => mergeIntoRoot tag
    | "base" | "basefont" | "bgsound" | "link" | "meta" =>
      insertVoid tag
      settled
    | "title" => openRaw .escapableText tag
    | "noframes" | "style" | "noscript" => openRaw .rawText tag
    | "script" => openRaw .script tag
    | "template" =>
      let _ ← openTag tag
      pushBound
      modify fun builder =>
        { builder with framesetAllowed := false, mode := .inTemplate, templates := .inTemplate :: builder.templates }
      settled
    | "head" => settled
    | _ => leave
  | .endTag tag =>
    match tag.name with
    | "head" =>
      closeCurrent
      goto .afterHead
      settled
    | "body" | "html" | "br" => leave
    | "template" =>
      if ← isOpen "template" then
        closeImpliedThoroughly
        closeThrough ["template"]
        clearToBound
        modify fun builder => { builder with templates := builder.templates.drop 1 }
        resetMode
      settled
    | _ => settled
  | .finish => leave
where
  leave : Build Bool := do
    closeCurrent
    again .afterHead

/-- The elements that close a paragraph and open a block. -/
def blockNames : List String := [
  "address", "article", "aside", "blockquote", "center", "details", "dialog", "dir", "div", "dl", "fieldset",
  "figcaption", "figure", "footer", "header", "hgroup", "main", "menu", "nav", "ol", "p", "section", "summary",
  "ul"]

/-- The elements whose end tag closes them and all inside them. -/
def closableBlockNames : List String := [
  "address", "article", "aside", "blockquote", "button", "center", "details", "dialog", "dir", "div", "dl",
  "fieldset", "figcaption", "figure", "footer", "header", "hgroup", "listing", "main", "menu", "nav", "ol",
  "pre", "section", "summary", "ul"]

def formattingNames : List String :=
  ["a", "b", "big", "code", "em", "font", "i", "nobr", "s", "small", "strike", "strong", "tt", "u"]

def headingNames : List String :=
  ["h1", "h2", "h3", "h4", "h5", "h6"]

def tablePartNames : List String :=
  ["caption", "col", "colgroup", "frame", "head", "tbody", "td", "tfoot", "th", "thead", "tr"]

def forbidFrameset : Build Unit :=
  modify fun builder => { builder with framesetAllowed := false }

/-- Closes an open item of a list with one of these names, unless another special element is nearer. -/
def closeItem (names : List String) : Build Unit := do
  let rec go : List Nat → Build (Option String)
    | [] => return none
    | node :: outer => do
      match ← element? node with
      | none => return none
      | some element =>
        if element.vocabulary = .html && names.contains element.name then return some element.name
        else if (← isSpecial node) && !(["address", "div", "p"].contains element.name) then return none
        else go outer
  match ← go (← get).stack with
  | some name =>
    closeImplied name
    closeThrough [name]
  | none => pure ()

def openForeign (vocabulary : Vocabulary) (tag : Tag) : Build Bool := do
  let _ ← openElement ⟨vocabulary, tag.name, tag.attributes⟩
  if tag.isSelfClosing then closeCurrent
  settled

/-- Whether an element closes no paragraph because the document follows old rules. -/
def keepsParagraph : Build Bool := do
  return (← get).isQuirky

def startInBody (tag : Tag) : Build Bool := do
  let name := tag.name
  if name == "html" then mergeIntoRoot tag
  else if ["base", "basefont", "bgsound", "link", "meta", "noframes", "script", "style", "template", "title"].contains name then
    inHead (.startTag tag)
  else if name == "body" then
    match (← get).stack.reverse with
    | _ :: body :: _ =>
      if (← hasName "body" body) && !(← isOpen "template") then
        forbidFrameset
        mergeAttributes body tag.attributes
    | _ => pure ()
    settled
  else if name == "frameset" then
    match (← get).stack.reverse with
    | root :: body :: _ =>
      if (← get).framesetAllowed && (← hasName "body" body) then
        detach body
        modify fun builder => { builder with stack := [root] }
        let _ ← openTag tag
        goto .inFrameset
    | _ => pure ()
    settled
  else if blockNames.contains name then
    closeParagraphInScope
    openQuietly
  else if headingNames.contains name then
    closeParagraphInScope
    if ← currentIsOneOf headingNames then closeCurrent
    openQuietly
  else if name == "pre" || name == "listing" then
    closeParagraphInScope
    let _ ← openTag tag
    modify fun builder => { builder with skipsNewline := true, framesetAllowed := false }
    settled
  else if name == "form" then
    let insideTemplate ← isOpen "template"
    if (← get).form.isSome && !insideTemplate then settled
    else
      closeParagraphInScope
      let node ← openTag tag
      if !insideTemplate then modify fun builder => { builder with form := some node }
      settled
  else if name == "li" then
    forbidFrameset
    closeItem ["li"]
    closeParagraphInScope
    openQuietly
  else if name == "dd" || name == "dt" then
    forbidFrameset
    closeItem ["dd", "dt"]
    closeParagraphInScope
    openQuietly
  else if name == "plaintext" then
    closeParagraphInScope
    modify fun builder => { builder with content := .plainText }
    openQuietly
  else if name == "button" then
    if ← inScope ["button"] then
      closeImplied ""
      closeThrough ["button"]
    reconstruct
    forbidFrameset
    openQuietly
  else if name == "a" then
    for node in ← sinceBound do
      if ← hasName "a" node then
        closeFormatting "a" 8
        dropFormatting node
        dropOpen node
        break
    openFormatting
  else if name == "nobr" then
    reconstruct
    if ← inScope ["nobr"] then
      closeFormatting "nobr" 8
    openFormatting
  else if formattingNames.contains name then openFormatting
  else if ["applet", "marquee", "object"].contains name then
    reconstruct
    let _ ← openTag tag
    pushBound
    forbidFrameset
    settled
  else if name == "table" then
    if !(← keepsParagraph) then closeParagraphInScope
    let _ ← openTag tag
    forbidFrameset
    goto .inTable
    settled
  else if ["area", "br", "embed", "img", "keygen", "wbr"].contains name then
    reconstruct
    insertVoid tag
    forbidFrameset
    settled
  else if name == "input" then
    reconstruct
    insertVoid tag
    if !isHidden then forbidFrameset
    settled
  else if ["param", "source", "track"].contains name then
    insertVoid tag
    settled
  else if name == "hr" then
    closeParagraphInScope
    insertVoid tag
    forbidFrameset
    settled
  else if name == "image" then
    reconstruct
    insertVoid { tag with name := "img" }
    forbidFrameset
    settled
  else if name == "textarea" then
    let _ ← openTag tag
    modify fun builder => { builder with skipsNewline := true, framesetAllowed := false }
    readRaw .escapableText
    settled
  else if name == "xmp" then
    closeParagraphInScope
    reconstruct
    forbidFrameset
    openRaw .rawText tag
  else if name == "iframe" then
    forbidFrameset
    openRaw .rawText tag
  else if name == "noembed" || name == "noscript" then openRaw .rawText tag
  else if name == "select" then
    reconstruct
    let _ ← openTag tag
    forbidFrameset
    let inTable := [Mode.inTable, .inCaption, .inTableBody, .inRow, .inCell].contains (← get).mode
    goto (if inTable then .inSelectInTable else .inSelect)
    settled
  else if name == "optgroup" || name == "option" then
    if ← currentIsOneOf ["option"] then closeCurrent
    reconstruct
    openQuietly
  else if name == "rb" || name == "rtc" then
    if ← inScope ["ruby"] then closeImplied ""
    openQuietly
  else if name == "rp" || name == "rt" then
    if ← inScope ["ruby"] then closeImplied "rtc"
    openQuietly
  else if name == "math" then
    reconstruct
    openForeign .math tag
  else if name == "svg" then
    reconstruct
    openForeign .svg tag
  else if tablePartNames.contains name then settled
  else
    reconstruct
    openQuietly
where
  openQuietly : Build Bool := do
    let _ ← openTag tag
    settled
  openFormatting : Build Bool := do
    reconstruct
    let node ← openTag tag
    pushFormatting node
    settled
  isHidden : Bool :=
    tag.attributes.any fun (key, value) => key == "type" && value.toList.map lowerChar == "hidden".toList

def endInBody (tag : Tag) : Build Bool := do
  let name := tag.name
  if name == "template" then inHead (.endTag tag)
  else if name == "body" then
    if ← inScope ["body"] then goto .afterBody
    settled
  else if name == "html" then
    if ← inScope ["body"] then again .afterBody else settled
  else if closableBlockNames.contains name then
    if ← inScope [name] then
      closeImplied ""
      closeThrough [name]
    settled
  else if name == "form" then
    if ← isOpen "template" then
      if ← inScope ["form"] then
        closeImplied ""
        closeThrough ["form"]
    else
      let form := (← get).form
      modify fun builder => { builder with form := none }
      match form with
      | none => pure ()
      | some node =>
        if ← isInScopeOf scopeBounds true fun other => return other == node then
          closeImplied ""
          dropOpen node
    settled
  else if name == "p" then
    if !(← inButtonScope "p") then
      let _ ← openImplied "p"
    closeParagraph
    settled
  else if name == "li" then
    if ← inListScope "li" then
      closeImplied "li"
      closeThrough ["li"]
    settled
  else if name == "dd" || name == "dt" then
    if ← inScope [name] then
      closeImplied name
      closeThrough [name]
    settled
  else if headingNames.contains name then
    if ← inScope headingNames then
      closeImplied ""
      closeThrough headingNames
    settled
  else if formattingNames.contains name then
    endFormatting name
    settled
  else if ["applet", "marquee", "object"].contains name then
    if ← inScope [name] then
      closeImplied ""
      closeThrough [name]
      clearToBound
    settled
  else if name == "br" then
    reconstruct
    insertVoid { name := "br" }
    forbidFrameset
    settled
  else
    closeOrdinary name
    settled

def inBody (token : Token) : Build Bool := do
  match token with
  | .characters text =>
    let text := withoutNulls text
    if !text.isEmpty then
      reconstruct
      insertText text
      if !isSpaceText text then forbidFrameset
    settled
  | .comment text =>
    insertComment text
    settled
  | .doctype _ => settled
  | .startTag tag => startInBody tag
  | .endTag tag => endInBody tag
  | .finish =>
    match (← get).templates with
    | [] => settled
    | _ :: _ => finishTemplate
where
  finishTemplate : Build Bool := do
    if ← isOpen "template" then
      closeThrough ["template"]
      clearToBound
      modify fun builder => { builder with templates := builder.templates.drop 1 }
      resetMode
      return true
    else settled

/-- Applies the rules for a body to what does not belong into a table; it goes before the table. -/
def fosterInBody (token : Token) : Build Bool := do
  modify fun builder => { builder with fostering := true }
  let more ← inBody token
  modify fun builder => { builder with fostering := false }
  return more

def beforeRoot (token : Token) : Build Bool := do
  match token with
  | .characters text => if isSpaceText text then settled else imply
  | .comment text =>
    insertCommentIn 0 text
    settled
  | .doctype _ => settled
  | .startTag tag =>
    if tag.name == "html" then
      let _ ← openTag tag
      goto .beforeHead
      settled
    else imply
  | .endTag tag => if ["head", "body", "html", "br"].contains tag.name then imply else settled
  | .finish => imply
where
  imply : Build Bool := do
    let _ ← openImplied "html"
    again .beforeHead

/-- The rules between the start of the outermost element and the head. -/
def beforeHead (token : Token) : Build Bool := do
  match token with
  | .characters text => if isSpaceText text then settled else imply
  | .comment text =>
    insertComment text
    settled
  | .doctype _ => settled
  | .startTag tag =>
    if tag.name == "html" then mergeIntoRoot tag
    else if tag.name == "head" then
      let node ← openTag tag
      modify fun builder => { builder with head := some node, mode := .inHead }
      settled
    else imply
  | .endTag tag => if ["head", "body", "html", "br"].contains tag.name then imply else settled
  | .finish => imply
where
  imply : Build Bool := do
    let node ← openImplied "head"
    modify fun builder => { builder with head := some node }
    again .inHead

def afterHead (token : Token) : Build Bool := do
  match token with
  | .characters text =>
    if isSpaceText text then
      insertText text
      settled
    else imply
  | .comment text =>
    insertComment text
    settled
  | .doctype _ => settled
  | .startTag tag =>
    if tag.name == "html" then mergeIntoRoot tag
    else if tag.name == "body" then
      let _ ← openTag tag
      forbidFrameset
      goto .inBody
      settled
    else if tag.name == "frameset" then
      let _ ← openTag tag
      goto .inFrameset
      settled
    else if ["base", "basefont", "bgsound", "link", "meta", "noframes", "script", "style", "template", "title"].contains tag.name then
      match (← get).head with
      | some head =>
        modify fun builder => { builder with stack := head :: builder.stack }
        let more ← inHead token
        dropOpen head
        return more
      | none => settled
    else if tag.name == "head" then settled
    else imply
  | .endTag tag =>
    if tag.name == "template" then inHead token
    else if ["body", "html", "br"].contains tag.name then imply
    else settled
  | .finish => imply
where
  imply : Build Bool := do
    let _ ← openImplied "body"
    again .inBody

def inText (token : Token) : Build Bool := do
  match token with
  | .characters text =>
    insertText text
    settled
  | .finish =>
    leave
    return true
  | .endTag _ =>
    leave
    settled
  | _ => settled
where
  leave : Build Unit := do
    closeCurrent
    modify fun builder => { builder with mode := builder.original, content := .markup }

def closeTable : Build Unit := do
  closeThrough ["table"]
  resetMode

def inTable (token : Token) : Build Bool := do
  match token with
  | .characters _ =>
    if ← currentIsOneOf ["table", "tbody", "tfoot", "thead", "tr"] then
      modify fun builder => { builder with tableText := [], original := builder.mode, mode := .inTableText }
      return true
    else fosterInBody token
  | .comment text =>
    insertComment text
    settled
  | .doctype _ => settled
  | .startTag tag =>
    match tag.name with
    | "caption" =>
      closeDownTo bounds
      pushBound
      let _ ← openTag tag
      goto .inCaption
      settled
    | "colgroup" =>
      closeDownTo bounds
      let _ ← openTag tag
      goto .inColumnGroup
      settled
    | "col" =>
      closeDownTo bounds
      let _ ← openImplied "colgroup"
      again .inColumnGroup
    | "tbody" | "tfoot" | "thead" =>
      closeDownTo bounds
      let _ ← openTag tag
      goto .inTableBody
      settled
    | "td" | "th" | "tr" =>
      closeDownTo bounds
      let _ ← openImplied "tbody"
      again .inTableBody
    | "table" =>
      if ← inTableScope ["table"] then
        closeTable
        return true
      else settled
    | "style" | "script" | "template" => inHead token
    | "input" =>
      if startInBody.isHidden tag then
        insertVoid tag
        settled
      else fosterInBody token
    | "form" =>
      if !(← isOpen "template") && (← get).form.isNone then
        let node ← openTag tag
        closeCurrent
        modify fun builder => { builder with form := some node }
      settled
    | _ => fosterInBody token
  | .endTag tag =>
    match tag.name with
    | "table" =>
      if ← inTableScope ["table"] then closeTable
      settled
    | "body" | "caption" | "col" | "colgroup" | "html" | "tbody" | "td" | "tfoot" | "th" | "thead" | "tr" => settled
    | "template" => inHead token
    | _ => fosterInBody token
  | .finish => inBody token
where
  bounds : List String := ["table", "template", "html"]

/-- The rules for characters inside a table, which are kept until another token comes. -/
def inTableText (token : Token) : Build Bool := do
  match token with
  | .characters text =>
    modify fun builder => { builder with tableText := builder.tableText ++ withoutNulls text }
    settled
  | _ =>
    let text := (← get).tableText
    modify fun builder => { builder with tableText := [], mode := builder.original }
    if isSpaceText text then
      if !text.isEmpty then insertText text
    else
      let _ ← fosterInBody (.characters text)
    return true

def inCaption (token : Token) : Build Bool := do
  match token with
  | .startTag tag =>
    if ["caption", "col", "colgroup", "tbody", "td", "tfoot", "th", "thead", "tr"].contains tag.name then leave
    else inBody token
  | .endTag tag =>
    match tag.name with
    | "caption" =>
      let _ ← leave
      settled
    | "table" => leave
    | "body" | "col" | "colgroup" | "html" | "tbody" | "td" | "tfoot" | "th" | "thead" | "tr" => settled
    | _ => inBody token
  | _ => inBody token
where
  leave : Build Bool := do
    if ← inTableScope ["caption"] then
      closeImplied ""
      closeThrough ["caption"]
      clearToBound
      again .inTable
    else settled

def inColumnGroup (token : Token) : Build Bool := do
  match token with
  | .characters text =>
    if isSpaceText text then
      insertText text
      settled
    else leave
  | .comment text =>
    insertComment text
    settled
  | .doctype _ => settled
  | .startTag tag =>
    match tag.name with
    | "html" => mergeIntoRoot tag
    | "col" =>
      insertVoid tag
      settled
    | "template" => inHead token
    | _ => leave
  | .endTag tag =>
    match tag.name with
    | "colgroup" =>
      let _ ← leave
      settled
    | "col" => settled
    | "template" => inHead token
    | _ => leave
  | .finish => inBody token
where
  leave : Build Bool := do
    if ← currentIsOneOf ["colgroup"] then
      closeCurrent
      again .inTable
    else settled

def inTableBody (token : Token) : Build Bool := do
  match token with
  | .startTag tag =>
    match tag.name with
    | "tr" =>
      closeDownTo bounds
      let _ ← openTag tag
      goto .inRow
      settled
    | "td" | "th" =>
      closeDownTo bounds
      let _ ← openImplied "tr"
      again .inRow
    | "caption" | "col" | "colgroup" | "tbody" | "tfoot" | "thead" => leave
    | _ => inTable token
  | .endTag tag =>
    match tag.name with
    | "tbody" | "tfoot" | "thead" =>
      if ← inTableScope [tag.name] then
        closeDownTo bounds
        closeCurrent
        goto .inTable
      settled
    | "table" => leave
    | "body" | "caption" | "col" | "colgroup" | "html" | "td" | "th" | "tr" => settled
    | _ => inTable token
  | _ => inTable token
where
  bounds : List String := ["tbody", "tfoot", "thead", "template", "html"]
  leave : Build Bool := do
    if ← inTableScope ["tbody", "tfoot", "thead"] then
      closeDownTo bounds
      closeCurrent
      again .inTable
    else settled

def inRow (token : Token) : Build Bool := do
  match token with
  | .startTag tag =>
    match tag.name with
    | "td" | "th" =>
      closeDownTo bounds
      let _ ← openTag tag
      pushBound
      goto .inCell
      settled
    | "caption" | "col" | "colgroup" | "tbody" | "tfoot" | "thead" | "tr" => leave
    | _ => inTable token
  | .endTag tag =>
    match tag.name with
    | "tr" =>
      let _ ← leave
      settled
    | "table" => leave
    | "tbody" | "tfoot" | "thead" => if ← inTableScope [tag.name] then leave else settled
    | "body" | "caption" | "col" | "colgroup" | "html" | "td" | "th" => settled
    | _ => inTable token
  | _ => inTable token
where
  bounds : List String := ["tr", "template", "html"]
  leave : Build Bool := do
    if ← inTableScope ["tr"] then
      closeDownTo bounds
      closeCurrent
      again .inTableBody
    else settled

def inCell (token : Token) : Build Bool := do
  match token with
  | .startTag tag =>
    if ["caption", "col", "colgroup", "tbody", "td", "tfoot", "th", "thead", "tr"].contains tag.name then
      if ← inTableScope ["td", "th"] then leave else settled
    else inBody token
  | .endTag tag =>
    match tag.name with
    | "td" | "th" =>
      if ← inTableScope [tag.name] then
        closeImplied ""
        closeThrough [tag.name]
        clearToBound
        goto .inRow
      settled
    | "body" | "caption" | "col" | "colgroup" | "html" => settled
    | "table" | "tbody" | "tfoot" | "thead" | "tr" =>
      if ← inTableScope [tag.name] then leave else settled
    | _ => inBody token
  | _ => inBody token
where
  leave : Build Bool := do
    closeImplied ""
    closeThrough ["td", "th"]
    clearToBound
    again .inRow

def inSelect (token : Token) : Build Bool := do
  match token with
  | .characters text =>
    let text := withoutNulls text
    if !text.isEmpty then insertText text
    settled
  | .comment text =>
    insertComment text
    settled
  | .doctype _ => settled
  | .startTag tag =>
    match tag.name with
    | "html" => mergeIntoRoot tag
    | "option" =>
      if ← currentIsOneOf ["option"] then closeCurrent
      let _ ← openTag tag
      settled
    | "optgroup" =>
      if ← currentIsOneOf ["option"] then closeCurrent
      if ← currentIsOneOf ["optgroup"] then closeCurrent
      let _ ← openTag tag
      settled
    | "select" =>
      closeSelect
      settled
    | "input" | "keygen" | "textarea" =>
      if ← inSelectScope "select" then
        closeSelect
        return true
      else settled
    | "script" | "template" => inHead token
    | _ => settled
  | .endTag tag =>
    match tag.name with
    | "optgroup" =>
      match (← get).stack with
      | first :: second :: _ =>
        if (← hasName "option" first) && (← hasName "optgroup" second) then closeCurrent
      | _ => pure ()
      if ← currentIsOneOf ["optgroup"] then closeCurrent
      settled
    | "option" =>
      if ← currentIsOneOf ["option"] then closeCurrent
      settled
    | "select" =>
      closeSelect
      settled
    | "template" => inHead token
    | _ => settled
  | .finish => inBody token
where
  closeSelect : Build Unit := do
    if ← inSelectScope "select" then
      closeThrough ["select"]
      resetMode

def inSelectInTable (token : Token) : Build Bool := do
  let names := ["caption", "table", "tbody", "tfoot", "thead", "tr", "td", "th"]
  match token with
  | .startTag tag =>
    if names.contains tag.name then
      closeThrough ["select"]
      resetMode
      return true
    else inSelect token
  | .endTag tag =>
    if names.contains tag.name then
      if ← inTableScope [tag.name] then
        closeThrough ["select"]
        resetMode
        return true
      else settled
    else inSelect token
  | _ => inSelect token

def inTemplate (token : Token) : Build Bool := do
  match token with
  | .startTag tag =>
    match tag.name with
    | "base" | "basefont" | "bgsound" | "link" | "meta" | "noframes" | "script" | "style" | "template" | "title" =>
      inHead token
    | "caption" | "colgroup" | "tbody" | "tfoot" | "thead" => turn .inTable
    | "col" => turn .inColumnGroup
    | "tr" => turn .inTableBody
    | "td" | "th" => turn .inRow
    | _ => turn .inBody
  | .endTag tag => if tag.name == "template" then inHead token else settled
  | .finish => inBody.finishTemplate
  | _ => inBody token
where
  turn (mode : Mode) : Build Bool := do
    modify fun builder => { builder with templates := mode :: builder.templates.drop 1 }
    again mode

def afterBody (token : Token) : Build Bool := do
  match token with
  | .characters text => if isSpaceText text then inBody token else again .inBody
  | .comment text =>
    insertCommentIn ((← get).stack.getLast?.getD 0) text
    settled
  | .doctype _ => settled
  | .startTag tag => if tag.name == "html" then inBody token else again .inBody
  | .endTag tag =>
    if tag.name == "html" then
      if !(← get).isFragment then goto .afterAfterBody
      settled
    else again .inBody
  | .finish => settled

/-- The rules for frames: inside a set of frames, behind it, and behind the document. -/
def inFrames (token : Token) : Build Bool := do
  let mode := (← get).mode
  match token with
  | .characters text =>
    let spaces := text.filter isSpace
    if !spaces.isEmpty then insertText spaces
    settled
  | .comment text =>
    if mode = .afterAfterFrameset then insertCommentIn 0 text else insertComment text
    settled
  | .doctype _ => settled
  | .startTag tag =>
    match tag.name with
    | "html" => mergeIntoRoot tag
    | "frameset" =>
      if mode = .inFrameset then
        let _ ← openTag tag
      settled
    | "frame" =>
      if mode = .inFrameset then insertVoid tag
      settled
    | "noframes" => inHead token
    | _ => settled
  | .endTag tag =>
    if mode = .inFrameset && tag.name == "frameset" then
      if (← get).stack.length > 1 then
        closeCurrent
        if !(← get).isFragment && !(← currentIsOneOf ["frameset"]) then goto .afterFrameset
    else if mode = .afterFrameset && tag.name == "html" then goto .afterAfterFrameset
    settled
  | .finish => settled

def afterAfterBody (token : Token) : Build Bool := do
  match token with
  | .characters text => if isSpaceText text then inBody token else again .inBody
  | .comment text =>
    insertCommentIn 0 text
    settled
  | .doctype _ => settled
  | .startTag tag => if tag.name == "html" then inBody token else again .inBody
  | .endTag _ => again .inBody
  | .finish => settled

def initial (token : Token) : Build Bool := do
  match token with
  | .characters text => if isSpaceText text then settled else leave
  | .comment text =>
    insertCommentIn 0 text
    settled
  | .doctype declaration =>
    let node ← create .doctype
    attach (.inside 0) node
    modify fun builder =>
      { builder with
        mode := .beforeHtml
        isQuirky := declaration.isBroken || declaration.name != "html".toList }
    settled
  | _ => leave
where
  leave : Build Bool := do
    modify fun builder => { builder with isQuirky := true }
    again .beforeHtml

/-- The elements of HTML that cannot lie inside another vocabulary. -/
def breakoutNames : List String := [
  "b", "big", "blockquote", "body", "br", "center", "code", "dd", "div", "dl", "dt", "em", "embed", "h1", "h2",
  "h3", "h4", "h5", "h6", "head", "hr", "i", "img", "li", "listing", "menu", "meta", "nobr", "ol", "p", "pre",
  "ruby", "s", "small", "span", "strong", "strike", "sub", "sup", "table", "tt", "u", "ul", "var"]

/-- The names of drawing elements that hold capital letters. -/
def drawingNames : List String := [
  "altGlyph", "altGlyphDef", "altGlyphItem", "animateColor", "animateMotion", "animateTransform", "clipPath",
  "feBlend", "feColorMatrix", "feComponentTransfer", "feComposite", "feConvolveMatrix", "feDiffuseLighting",
  "feDisplacementMap", "feDistantLight", "feDropShadow", "feFlood", "feFuncA", "feFuncB", "feFuncG", "feFuncR",
  "feGaussianBlur", "feImage", "feMerge", "feMergeNode", "feMorphology", "feOffset", "fePointLight",
  "feSpecularLighting", "feSpotLight", "feTile", "feTurbulence", "foreignObject", "glyphRef", "linearGradient",
  "radialGradient", "textPath"]

def drawingName (name : String) : String :=
  (drawingNames.find? fun known => known.toList.map lowerChar == name.toList).getD name

/-- Whether the innermost element lets HTML in although it belongs to another vocabulary. -/
def letsHtmlIn (element : Element) (token : Token) : Bool :=
  let isText := match token with
    | .characters _ => true
    | _ => false
  let name := match token with
    | .startTag tag => tag.name
    | _ => ""
  match element.vocabulary with
  | .html => true
  | .math =>
    if ["mi", "mo", "mn", "ms", "mtext"].contains element.name then
      isText || (name != "" && name != "mglyph" && name != "malignmark")
    else element.name == "annotation-xml" &&
      (name == "svg" || ((isText || name != "") && element.attributes.any fun (key, value) =>
        key == "encoding" && ["text/html", "application/xhtml+xml"].contains
          (String.ofList (value.toList.map lowerChar))))
  | .svg => ["foreignObject", "desc", "title"].contains element.name && (isText || name != "")

/-- Whether a token follows the rules of another vocabulary. -/
def isForeign (token : Token) : Build Bool := do
  match token with
  | .finish => return false
  | _ =>
    match ← current? with
    | none => return false
    | some node =>
      match ← element? node with
      | none => return false
      | some element => return !letsHtmlIn element token

/-- Closes elements of other vocabularies down to one that holds HTML. -/
def closeForeign : Build Unit := do
  let rec go : List Nat → Build (List Nat)
    | [] => return []
    | node :: outer => do
      match ← element? node with
      | none => return node :: outer
      | some element =>
        if element.vocabulary = .html || isForeignBound element then return node :: outer else go outer
  let rest ← go ((← get).stack.drop 1)
  modify fun builder => { builder with stack := rest }

/-- The rules inside another vocabulary; `ordinary` are those of the current mode. -/
def inForeign (ordinary : Token → Build Bool) (token : Token) : Build Bool := do
  match token with
  | .characters text =>
    insertText (text.map notNull)
    if !isSpaceText text then forbidFrameset
    settled
  | .comment text =>
    insertComment text
    settled
  | .doctype _ => settled
  | .startTag tag =>
    let breaksOut := breakoutNames.contains tag.name
      || (tag.name == "font" && tag.attributes.any fun (key, _) => ["color", "face", "size"].contains key)
    if breaksOut && !(← get).isFragment then
      closeForeign
      return true
    else
      match ← current? with
      | none => settled
      | some node =>
        match ← element? node with
        | none => settled
        | some element =>
          let name := if element.vocabulary = .svg then drawingName tag.name else tag.name
          openForeign element.vocabulary { tag with name := name }
  | .endTag tag =>
    let rec go (isFirst : Bool) : List Nat → Build (Option (Option (List Nat)))
      | [] => return none
      | node :: outer => do
        if outer.isEmpty then return none
        else
          match ← element? node with
          | none => return none
          | some element =>
            if !isFirst && element.vocabulary = .html then return some none
            else if element.name.toList.map lowerChar == tag.name.toList then return some (some outer)
            else go false outer
    match ← go true (← get).stack with
    | none => settled
    | some none => ordinary token
    | some (some rest) =>
      modify fun builder => { builder with stack := rest }
      settled
  | .finish => ordinary token

def stepOrdinary (token : Token) : Build Bool := do
  match (← get).mode with
  | .initial => initial token
  | .beforeHtml => beforeRoot token
  | .beforeHead => beforeHead token
  | .inHead => inHead token
  | .afterHead => afterHead token
  | .inBody => inBody token
  | .inText => inText token
  | .inTable => inTable token
  | .inTableText => inTableText token
  | .inCaption => inCaption token
  | .inColumnGroup => inColumnGroup token
  | .inTableBody => inTableBody token
  | .inRow => inRow token
  | .inCell => inCell token
  | .inSelect => inSelect token
  | .inSelectInTable => inSelectInTable token
  | .inTemplate => inTemplate token
  | .afterBody => afterBody token
  | .inFrameset => inFrames token
  | .afterFrameset => inFrames token
  | .afterAfterBody => afterAfterBody token
  | .afterAfterFrameset => inFrames token

def step (token : Token) : Build Bool := do
  if ← isForeign token then inForeign stepOrdinary token else stepOrdinary token

def applyToken (token : Token) : (fuel : Nat) → Build Unit
  | 0 => pure ()
  | fuel + 1 => do
    if ← step token then applyToken token fuel

/-- Runs of characters that are all white space or all not. -/
def spaceRuns (text : List Char) : List (List Char) :=
  text.splitBy fun left right => isSpace left == isSpace right

/-- Applies a token. White space counts apart from other characters, and a line feed just behind the
start of a preformatted text counts not at all. -/
def apply (token : Token) : Build Unit := do
  let builder ← get
  let fuel := 2 * builder.stack.length + builder.templates.length + 32
  match token with
  | .characters text =>
    if !text.isEmpty then
      let text := match builder.skipsNewline, text with
        | true, '\n' :: rest => rest
        | _, text => text
      modify fun builder => { builder with skipsNewline := false }
      for run in spaceRuns text do
        applyToken (.characters run) fuel
  | _ =>
    modify fun builder => { builder with skipsNewline := false }
    applyToken token fuel

def applyAll : (fuel : Nat) → List Char → Build Unit
  | 0, _ => pure ()
  | fuel + 1, text => do
    let builder ← get
    let innermost := match builder.stack with
      | [] => none
      | node :: _ => builder.cells[node]?
    let (name, isForeign) := match innermost with
      | some ⟨.element element, _, _⟩ => (element.name, element.vocabulary != .html)
      | _ => ("", false)
    match nextToken builder.content name isForeign text with
    | (.finish, _) => apply .finish
    | (token, rest) =>
      apply token
      applyAll fuel rest

end Build

end Harvest.Markup
