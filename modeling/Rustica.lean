import Rustica.Basic
import Rustica.Libraries
import Rustica.OpenSsh
import Rustica.Signing
import Rustica.Server.Types
import Rustica.Server.Validate
import Rustica.Lru
import Rustica.Config
import Rustica.Registry
import Rustica.Server.Certificate
import Rustica.Server.Register
import Rustica.Server.Challenge
import Rustica.Server.AllowedSigners
import Rustica.Server.CacheFreshness
import Rustica.Server.CacheProgress
import Rustica.Agent.Fetch
import Rustica.Agent.Signing
import Rustica.Server.AttestedX509
