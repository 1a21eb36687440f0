import GirBind.Error
import GirBind.Markup.Scan

namespace GirBind

structure Source where
  file : String
  platforms : PlatformSet
  content : String

namespace Source

def root (s : Source) : Except Error Node :=
  match Markup.tokens s.content with
  | .error e => .error (.schema s.file (e.map .markup))
  | .ok tokens =>
    match Node.ofTokens s.platforms tokens with
    | .error e => .error (.schema s.file (e.map .tree))
    | .ok n => .ok n

def repository (s : Source) : Except Error Repository :=
  match s.root with
  | .error e => .error e
  | .ok n =>
    match Repository.ofNode s.platforms n with
    | .error e => .error (.schema s.file (e.map .repository))
    | .ok r => .ok r

end Source
end GirBind
