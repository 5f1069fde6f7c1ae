import ExchangeTap.Json.Token

/-! A tree holds whatever the text holds in front of its first defect, and the defect in the place
where a reader meets it; so each reader of the tree fails the way it would on the text itself. -/

namespace ExchangeTap.Json

/-- A list or an object either closes, or breaks off behind its last item with a defect. -/
inductive Tree where
  | null
  | boolean (value : Bool)
  | number (value : Option Number)
  | text (value : Option String)
  | list (items : List Tree) (ending : Option Defect)
  | object (members : List (Option String × Tree)) (ending : Option Defect)
  | broken (defect : Defect)
  deriving Repr, Inhabited

namespace Tree

inductive Frame where
  | list (done : List Tree)
  | object (done : List (Option String × Tree)) (key : Option String)

def Frame.fill (tree : Tree) (ending : Option Defect) : Frame → Tree
  | .list done => .list (done.reverse ++ [tree]) ending
  | .object done key => .object (done.reverse ++ [(key, tree)]) ending

inductive State where
  | value (outer : List Frame)
  | firstItem (outer : List Frame)
  | key (first : Bool) (done : List (Option String × Tree)) (outer : List Frame)
  | colon (done : List (Option String × Tree)) (key : Option String) (outer : List Frame)
  | after (tree : Tree) (outer : List Frame)

inductive Progress where
  | next (state : State)
  | stop (tree : Tree)

def breakOff (tree : Tree) (outer : List Frame) : Tree :=
  outer.foldl (fun inner frame => frame.fill inner none) tree

def readValue (outer : List Frame) : Token → Progress
  | .null => .next (.after .null outer)
  | .boolean value => .next (.after (.boolean value) outer)
  | .number value => .next (.after (.number value) outer)
  | .text value => .next (.after (.text value) outer)
  | .openList => .next (.firstItem outer)
  | .openObject => .next (.key true [] outer)
  | .broken _ defect => .stop (breakOff (.broken defect) outer)
  | .closeList | .closeObject | .comma | .colon => .stop (breakOff (.broken .malformed) outer)

def readKey (first : Bool) (done : List (Option String × Tree)) (outer : List Frame) :
    Token → Progress
  | .text key => .next (.colon done key outer)
  | .closeObject =>
    if first then .next (.after (.object [] none) outer)
    else .stop (breakOff (.object done.reverse (some .malformed)) outer)
  | .broken true defect => .stop (breakOff (.object done.reverse (some defect)) outer)
  | _ => .stop (breakOff (.object done.reverse (some .malformed)) outer)

def readAfter (tree : Tree) (frame : Frame) (outer : List Frame) (token : Token) : Progress :=
  match frame, token with
  | .list _, .closeList | .object _ _, .closeObject => .next (.after (frame.fill tree none) outer)
  | .list done, .comma => .next (.value (.list (tree :: done) :: outer))
  | .object done key, .comma => .next (.key false ((key, tree) :: done) outer)
  | _, _ => .stop (breakOff (frame.fill tree (some .malformed)) outer)

def State.cut : State → Tree
  | .value outer => breakOff (.broken .early) outer
  | .firstItem outer => breakOff (.list [] (some .early)) outer
  | .key _ done outer => breakOff (.object done.reverse (some .early)) outer
  | .colon done name outer => breakOff (.broken .early) (.object done name :: outer)
  | .after tree [] => tree
  | .after tree (frame :: outer) => breakOff (frame.fill tree (some .early)) outer

/-- The tree that the tokens spell, and the tokens behind it. -/
def build (state : State) : List Token → Tree × List Token
  | [] => (state.cut, [])
  | token :: rest =>
    let progress :=
      match state with
      | .value outer => readValue outer token
      | .firstItem outer =>
        match token with
        | .closeList => .next (.after (.list [] none) outer)
        | _ => readValue (.list [] :: outer) token
      | .key first done outer => readKey first done outer token
      | .colon done key outer =>
        match token with
        | .colon => .next (.value (.object done key :: outer))
        | _ => .stop (breakOff (.broken .malformed) (.object done key :: outer))
      | .after tree [] => .stop tree
      | .after tree (frame :: outer) => readAfter tree frame outer token
    match state, progress with
    | .after tree [], _ => (tree, token :: rest)
    | _, .next state => build state rest
    | _, .stop tree => (tree, rest)

def ofText (text : List Char) : Tree × Bool :=
  let (tree, rest) := build (.value []) (tokens text)
  (tree, !rest.isEmpty)

end Tree

end ExchangeTap.Json
