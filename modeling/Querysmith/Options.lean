import Querysmith.Filter.Basic

namespace Querysmith

structure CompileOptions where
  logQueries : Bool
  listMode : ListMode
deriving DecidableEq

structure Options where
  path : String
  logQueries : Bool
  listMode : ListMode
deriving DecidableEq

inductive Setting where
  | logQueries (on : Bool)
  | listMode (mode : ListMode)
deriving DecidableEq

namespace Options

def ofPath (path : String) : Options := ⟨path, false, .inline⟩

def set (o : Options) : Setting → Options
  | .logQueries on => { o with logQueries := on }
  | .listMode mode => { o with listMode := mode }

def setAll (o : Options) (settings : List Setting) : Options :=
  settings.foldl set o

def compileOptions (o : Options) : CompileOptions :=
  ⟨o.logQueries, o.listMode⟩

end Options

end Querysmith
