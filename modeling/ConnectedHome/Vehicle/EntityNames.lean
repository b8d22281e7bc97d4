import ConnectedHome.Text.Case
/-!
# Names of the vehicle's entities

Channels are named in camel case (`tempOutside`).  An entity shows a channel under a label in
sentence case (`channelLabel`: "Temp outside") and is identified by the channel's group and its
name in snake case (`channelUniqueId`: `general_temp_outside`).  Words start at the ASCII
capitals that do not begin the name.
-/
namespace ConnectedHome.Vehicle

/-- The characters of a name with `sep` before every ASCII capital but a first one. -/
def splitWords (sep : Char) (cs : List Char) : List Char :=
  match cs with
  | [] => []
  | c :: rest => c :: rest.flatMap (fun d => if Text.isAsciiUpper d then [sep, d] else [d])

/-- The label of a channel: its words lower-cased, the first character upper-cased. -/
def channelLabel (channel : String) : String :=
  let words := Text.lower (String.ofList (splitWords ' ' channel.toList))
  match words.toList with
  | [] => ""
  | c :: rest => Text.upper (String.singleton c) ++ String.ofList rest

/-- The identifier of a channel key `group#channel`: the group, then the channel in snake
case.  A key without `#` is all group. -/
def channelUniqueId (key : String) : String :=
  let cs := key.toList
  let group := cs.takeWhile (· != '#')
  let channel := (cs.dropWhile (· != '#')).drop 1
  String.ofList group ++ "_" ++ Text.lower (String.ofList (splitWords '_' channel))

end ConnectedHome.Vehicle
