/-! The password of a URI stands between the first colon of the user information and the last at
sign behind the scheme. -/

namespace ExchangeTap.Url

/-- The parts before and behind the first occurrence of a text that starts with `c` and goes on with
`more`. -/
def splitFirst (c : Char) (more : List Char) : List Char → Option (List Char × List Char)
  | [] => none
  | d :: rest =>
    if d = c ∧ more.isPrefixOf rest then some ([], rest.drop more.length)
    else (splitFirst c more rest).map fun (before, behind) => (d :: before, behind)

def splitLast (c : Char) : List Char → Option (List Char × List Char)
  | [] => none
  | d :: rest =>
    match splitLast c rest with
    | some (before, behind) => some (d :: before, behind)
    | none => if d = c then some ([], rest) else none

def redactChars (uri : List Char) : List Char :=
  match splitFirst ':' ['/', '/'] uri with
  | none => uri
  | some (scheme, rest) =>
    match splitLast '@' rest with
    | none => uri
    | some (userinfo, host) =>
      match splitFirst ':' [] userinfo with
      | none => uri
      | some (user, _) =>
        scheme ++ [':', '/', '/'] ++ user ++ [':', '*', '*', '*', '@'] ++ host

def redact (uri : String) : String :=
  String.ofList (redactChars uri.toList)

end ExchangeTap.Url
