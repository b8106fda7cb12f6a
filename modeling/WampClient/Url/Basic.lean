import WampClient.Url.Host

/-! # Web addresses

A web address has a host and a path that begins with a slash. Its parts are kept as they are
written: escaped where they must be, without dot segments, and without a port that is the default
of the scheme.
-/

namespace WampClient.Url

/-- The schemes whose addresses have a host and a path. -/
inductive Scheme where
  | ftp
  | http
  | https
  | ws
  | wss
  deriving DecidableEq, Repr

namespace Scheme

def name : Scheme → String
  | ftp => "ftp"
  | http => "http"
  | https => "https"
  | ws => "ws"
  | wss => "wss"

def defaultPort : Scheme → UInt16
  | ftp => 21
  | http | ws => 80
  | https | wss => 443

def ofName? (name : String) : Option Scheme :=
  [ftp, http, https, ws, wss].find? fun s => s.name = name

end Scheme

structure Address where
  scheme : Scheme
  /-- The user name, escaped; it may be empty. -/
  username : List Char
  /-- The password, escaped; an empty one counts as none. -/
  password : List Char
  host : Host
  /-- The port, if it is not the default of the scheme. -/
  port : Option UInt16
  /-- The segments of the path, escaped; the last one is empty if the path ends with a slash. -/
  path : List (List Char)
  query : Option (List Char)
  fragment : Option (List Char)
  deriving DecidableEq, Repr

namespace Address

def renderUserinfo (a : Address) : List Char :=
  if a.username.isEmpty && a.password.isEmpty then []
  else if a.password.isEmpty then a.username ++ ['@']
  else a.username ++ ':' :: (a.password ++ ['@'])

def renderPort (a : Address) : List Char :=
  match a.port with
  | none => []
  | some p => ':' :: Decimal.render p.toNat

def renderPath (a : Address) : List Char :=
  '/' :: Text.joinWith '/' a.path

def renderTail (mark : Char) : Option (List Char) → List Char
  | none => []
  | some text => mark :: text

def renderHostPort (a : Address) : List Char :=
  a.host.render ++ a.renderPort

def renderTarget (a : Address) : List Char :=
  a.scheme.name.toList ++ ':' :: '/' :: '/' ::
    (a.renderUserinfo ++ (a.renderHostPort ++ (a.renderPath ++ renderTail '?' a.query)))

def render (a : Address) : List Char :=
  a.renderTarget ++ renderTail '#' a.fragment

end Address

end WampClient.Url
