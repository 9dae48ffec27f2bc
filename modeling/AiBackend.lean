import AiBackend.Raft.Fsm
import AiBackend.Raft.Quorum
import AiBackend.Raft.Node
import AiBackend.Raft.Cluster
import AiBackend.Raft.Election
import AiBackend.Raft.Safety
import AiBackend.Session.Status
import AiBackend.Session.Row
import AiBackend.Plugin.Entrypoint
import AiBackend.Plugin.Extract
import AiBackend.Plugin.Buildscript
import AiBackend.Audit.Migration
