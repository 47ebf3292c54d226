import TheWire.Rust
import TheWire.Modbus.Parse
import TheWire.Modbus.Frame
import TheWire.Packet
import TheWire.Application
import TheWire.Capture
import TheWire.Isolation
