/-!
# Character names: alphabets

The part of the table of character names from U+0000 to U+08FF: the alphabets of Europe and of the
Near East.
-/

namespace ClassSchema.Text.CharacterName

/-- The names of the alphabets of Europe and of the Near East. -/
def alphabets : List String :=
  ["@20aSPACEaEXCLAMATION MARKaQUOTATION~aNUMBER SIGNaDOLLAR~aPERCENT~aAMPERSANDaAPOSTROPHE",
   "aLEFT PARENTHESISaRIGHT~aASTERISKaPLUS SIGNaCOMMAaHYPHEN-MINUSaFULL STOPaSOLIDUSaDIGIT ZERO",
   "bONEbTWObTHREEbFOURbFIVEbSIXbSEVENbEIGHTbNINEaCOLONaSEMICOLONaLESS-THAN SIGNaEQUALS~",
   "aGREATER-THAN~aQUESTION MARKaCOMMERCIAL ATaLATIN CAPITAL LETTER AdBdCdDdEdFdGdHdIdJdKdLdMdNdO",
   "dPdQdRdSdTdUdVdWdXdYdZaLEFT SQUARE BRACKETaREVERSE SOLIDUSaRIGHT SQUARE BRACKET",
   "aCIRCUMFLEX ACCENTaLOW LINEaGRAVE ACCENTaLATIN SMALL LETTER AdBdCdDdEdFdGdHdIdJdKdLdMdNdOdPdQ",
   "dRdSdTdUdVdWdXdYdZaLEFT CURLY BRACKETaVERTICAL LINEaRIGHT CURLY BRACKETaTILDE@A0",
   "aNO-BREAK SPACEaINVERTED EXCLAMATION MARKaCENT SIGNaPOUND~aCURRENCY~aYEN~aBROKEN BAR",
   "aSECTION SIGNaDIAERESISaCOPYRIGHT SIGNaFEMININE ORDINAL INDICATOR",
   "aLEFT-POINTING DOUBLE ANGLE QUOTATION MARKaNOT SIGNaSOFT HYPHENaREGISTERED SIGNaMACRON",
   "aDEGREE SIGNaPLUS-MINUS~aSUPERSCRIPT TWObTHREEaACUTE ACCENTaMICRO SIGNaPILCROW~aMIDDLE DOT",
   "aCEDILLAaSUPERSCRIPT ONEaMASCULINE ORDINAL INDICATOR",
   "aRIGHT-POINTING DOUBLE ANGLE QUOTATION MARKaVULGAR FRACTION ONE QUARTERdHALFcTHREE QUARTERS",
   "aINVERTED QUESTION MARKaLATIN CAPITAL LETTER A WITH GRAVEfACUTEfCIRCUMFLEXfTILDEfDIAERESIS",
   "fRING ABOVEdAEdC WITH CEDILLAdE WITH GRAVEfACUTEfCIRCUMFLEXfDIAERESISdI WITH GRAVEfACUTE",
   "fCIRCUMFLEXfDIAERESISdETHdN WITH TILDEdO WITH GRAVEfACUTEfCIRCUMFLEXfTILDEfDIAERESIS",
   "aMULTIPLICATION SIGNaLATIN CAPITAL LETTER O WITH STROKEdU WITH GRAVEfACUTEfCIRCUMFLEX",
   "fDIAERESISdY WITH ACUTEdTHORNbSMALL LETTER SHARP SdA WITH GRAVEfACUTEfCIRCUMFLEXfTILDE",
   "fDIAERESISfRING ABOVEdAEdC WITH CEDILLAdE WITH GRAVEfACUTEfCIRCUMFLEXfDIAERESISdI WITH GRAVE",
   "fACUTEfCIRCUMFLEXfDIAERESISdETHdN WITH TILDEdO WITH GRAVEfACUTEfCIRCUMFLEXfTILDEfDIAERESIS",
   "aDIVISION SIGNaLATIN SMALL LETTER O WITH STROKEdU WITH GRAVEfACUTEfCIRCUMFLEXfDIAERESIS",
   "dY WITH ACUTEdTHORNdY WITH DIAERESISbCAPITAL LETTER A WITH MACRONbSMALL~~~~",
   "bCAPITAL LETTER A WITH BREVEbSMALL~~~~bCAPITAL LETTER A WITH OGONEKbSMALL~~~~",
   "bCAPITAL LETTER C WITH ACUTEbSMALL~~~~bCAPITAL LETTER C WITH CIRCUMFLEXbSMALL~~~~",
   "bCAPITAL LETTER C WITH DOT ABOVEbSMALL~~~~~bCAPITAL LETTER C WITH CARONbSMALL~~~~",
   "bCAPITAL LETTER D~~bSMALL~~~~bCAPITAL LETTER D WITH STROKEbSMALL~~~~",
   "bCAPITAL LETTER E WITH MACRONbSMALL~~~~bCAPITAL LETTER E WITH BREVEbSMALL~~~~",
   "bCAPITAL LETTER E WITH DOT ABOVEbSMALL~~~~~bCAPITAL LETTER E WITH OGONEKbSMALL~~~~",
   "bCAPITAL LETTER E WITH CARONbSMALL~~~~bCAPITAL LETTER G WITH CIRCUMFLEXbSMALL~~~~",
   "bCAPITAL LETTER G WITH BREVEbSMALL~~~~bCAPITAL LETTER G WITH DOT ABOVEbSMALL~~~~~",
   "bCAPITAL LETTER G WITH CEDILLAbSMALL~~~~bCAPITAL LETTER H WITH CIRCUMFLEXbSMALL~~~~",
   "bCAPITAL LETTER H WITH STROKEbSMALL~~~~bCAPITAL LETTER I WITH TILDEbSMALL~~~~",
   "bCAPITAL LETTER I WITH MACRONbSMALL~~~~bCAPITAL LETTER I WITH BREVEbSMALL~~~~",
   "bCAPITAL LETTER I WITH OGONEKbSMALL~~~~bCAPITAL LETTER I WITH DOT ABOVEbSMALL LETTER DOTLESS I",
   "bCAPITAL LIGATURE IJbSMALL~~bCAPITAL LETTER J WITH CIRCUMFLEXbSMALL~~~~",
   "bCAPITAL LETTER K WITH CEDILLAbSMALL~~~~dKRAbCAPITAL LETTER L WITH ACUTEbSMALL~~~~",
   "bCAPITAL LETTER L WITH CEDILLAbSMALL~~~~bCAPITAL LETTER L WITH CARONbSMALL~~~~",
   "bCAPITAL LETTER L WITH MIDDLE DOTbSMALL~~~~~bCAPITAL LETTER L WITH STROKEbSMALL~~~~",
   "bCAPITAL LETTER N WITH ACUTEbSMALL~~~~bCAPITAL LETTER N WITH CEDILLAbSMALL~~~~",
   "bCAPITAL LETTER N WITH CARONbSMALL~~~~ePRECEDED BY APOSTROPHEbCAPITAL LETTER ENGbSMALL~~",
   "bCAPITAL LETTER O WITH MACRONbSMALL~~~~bCAPITAL LETTER O WITH BREVEbSMALL~~~~",
   "bCAPITAL LETTER O WITH DOUBLE ACUTEbSMALL~~~~~bCAPITAL LIGATURE OEbSMALL~~",
   "bCAPITAL LETTER R WITH ACUTEbSMALL~~~~bCAPITAL LETTER R WITH CEDILLAbSMALL~~~~",
   "bCAPITAL LETTER R WITH CARONbSMALL~~~~bCAPITAL LETTER S WITH ACUTEbSMALL~~~~",
   "bCAPITAL LETTER S WITH CIRCUMFLEXbSMALL~~~~bCAPITAL LETTER S WITH CEDILLAbSMALL~~~~",
   "bCAPITAL LETTER S WITH CARONbSMALL~~~~bCAPITAL LETTER T WITH CEDILLAbSMALL~~~~",
   "bCAPITAL LETTER T WITH CARONbSMALL~~~~bCAPITAL LETTER T WITH STROKEbSMALL~~~~",
   "bCAPITAL LETTER U WITH TILDEbSMALL~~~~bCAPITAL LETTER U WITH MACRONbSMALL~~~~",
   "bCAPITAL LETTER U WITH BREVEbSMALL~~~~bCAPITAL LETTER U WITH RING ABOVEbSMALL~~~~~",
   "bCAPITAL LETTER U WITH DOUBLE ACUTEbSMALL~~~~~bCAPITAL LETTER U WITH OGONEKbSMALL~~~~",
   "bCAPITAL LETTER W WITH CIRCUMFLEXbSMALL~~~~bCAPITAL LETTER Y~~bSMALL~~~~",
   "bCAPITAL LETTER Y WITH DIAERESISdZ WITH ACUTEbSMALL~~~~bCAPITAL LETTER Z WITH DOT ABOVE",
   "bSMALL~~~~~bCAPITAL LETTER Z WITH CARONbSMALL~~~~dLONG SdB WITH STROKE",
   "bCAPITAL LETTER B WITH HOOKfTOPBARbSMALL~~~~bCAPITAL LETTER TONE SIXbSMALL~~~",
   "bCAPITAL LETTER OPEN OdC WITH HOOKbSMALL~~~~bCAPITAL LETTER AFRICAN DdD WITH HOOKfTOPBAR",
   "bSMALL~~~~dTURNED DELTAbCAPITAL LETTER REVERSED EdSCHWAdOPEN EdF WITH HOOKbSMALL~~~~",
   "bCAPITAL LETTER G~~dGAMMAbSMALL LETTER HVbCAPITAL LETTER IOTAdI WITH STROKEdK WITH HOOK",
   "bSMALL~~~~dL WITH BARdLAMBDA WITH STROKEbCAPITAL LETTER TURNED MdN WITH LEFT HOOK",
   "bSMALL LETTER N WITH LONG RIGHT LEGbCAPITAL LETTER O WITH MIDDLE TILDEfHORNbSMALL~~~~",
   "bCAPITAL LETTER OIbSMALL~~bCAPITAL LETTER P WITH HOOKbSMALL~~~~bLETTER YR",
   "bCAPITAL LETTER TONE TWObSMALL~~~bCAPITAL LETTER ESHbLETTER REVERSED ESH LOOP",
   "bSMALL LETTER T WITH PALATAL HOOKbCAPITAL LETTER T WITH~bSMALL~~~~",
   "bCAPITAL LETTER T WITH RETROFLEX~dU WITH HORNbSMALL~~~~bCAPITAL LETTER UPSILONdV WITH HOOKdY~~",
   "bSMALL~~~~bCAPITAL LETTER Z WITH STROKEbSMALL~~~~bCAPITAL LETTER EZHeREVERSEDbSMALL~~~",
   "eWITH TAILbLETTER TWO WITH STROKEbCAPITAL LETTER TONE FIVEbSMALL~~~",
   "bLETTER INVERTED GLOTTAL STOP WITH STROKEcWYNNcDENTAL CLICKcLATERAL~cALVEOLAR~cRETROFLEX~",
   "bCAPITAL LETTER DZ WITH CARONdD WITH SMALL LETTER Z~~bSMALL LETTER DZ~~bCAPITAL LETTER LJ",
   "dL WITH SMALL LETTER JbSMALL LETTER LJbCAPITAL LETTER NJdN WITH SMALL LETTER JbSMALL LETTER NJ",
   "bCAPITAL LETTER A WITH CARONbSMALL~~~~bCAPITAL LETTER I~~bSMALL~~~~bCAPITAL LETTER O~~",
   "bSMALL~~~~bCAPITAL LETTER U~~bSMALL~~~~bCAPITAL LETTER U WITH DIAERESIS AND MACRONbSMALL~~~~~~",
   "bCAPITAL LETTER U WITH DIAERESIS AND ACUTEbSMALL~~~~~~",
   "bCAPITAL LETTER U WITH DIAERESIS AND CARONbSMALL~~~~~~",
   "bCAPITAL LETTER U WITH DIAERESIS AND GRAVEbSMALL~~~~~~dTURNED E",
   "bCAPITAL LETTER A WITH DIAERESIS AND MACRONbSMALL~~~~~~bCAPITAL LETTER A WITH DOT ABOVE~~",
   "bSMALL~~~~~~~bCAPITAL LETTER AE WITH~bSMALL~~~~bCAPITAL LETTER G WITH STROKEbSMALL~~~~",
   "bCAPITAL LETTER G WITH CARONbSMALL~~~~bCAPITAL LETTER K~~bSMALL~~~~",
   "bCAPITAL LETTER O WITH OGONEKbSMALL~~~~bCAPITAL LETTER O WITH OGONEK AND MACRONbSMALL~~~~~~",
   "bCAPITAL LETTER EZH WITH CARONbSMALL~~~~dJ~~bCAPITAL LETTER DZdD WITH SMALL LETTER Z",
   "bSMALL LETTER DZbCAPITAL LETTER G WITH ACUTEbSMALL~~~~bCAPITAL LETTER HWAIRdWYNNdN WITH GRAVE",
   "bSMALL~~~~bCAPITAL LETTER A WITH RING ABOVE AND ACUTEbSMALL~~~~~~~bCAPITAL LETTER AE WITH~",
   "bSMALL~~~~bCAPITAL LETTER O WITH STROKE AND~bSMALL~~~~~~bCAPITAL LETTER A WITH DOUBLE GRAVE",
   "bSMALL~~~~~bCAPITAL LETTER A WITH INVERTED BREVEbSMALL~~~~~bCAPITAL LETTER E WITH DOUBLE GRAVE",
   "bSMALL~~~~~bCAPITAL LETTER E WITH INVERTED BREVEbSMALL~~~~~bCAPITAL LETTER I WITH DOUBLE GRAVE",
   "bSMALL~~~~~bCAPITAL LETTER I WITH INVERTED BREVEbSMALL~~~~~bCAPITAL LETTER O WITH DOUBLE GRAVE",
   "bSMALL~~~~~bCAPITAL LETTER O WITH INVERTED BREVEbSMALL~~~~~bCAPITAL LETTER R WITH DOUBLE GRAVE",
   "bSMALL~~~~~bCAPITAL LETTER R WITH INVERTED BREVEbSMALL~~~~~bCAPITAL LETTER U WITH DOUBLE GRAVE",
   "bSMALL~~~~~bCAPITAL LETTER U WITH INVERTED BREVEbSMALL~~~~~bCAPITAL LETTER S WITH COMMA BELOW",
   "bSMALL~~~~~bCAPITAL LETTER T~~~bSMALL~~~~~bCAPITAL LETTER YOGHbSMALL~~",
   "bCAPITAL LETTER H WITH CARONbSMALL~~~~bCAPITAL LETTER N WITH LONG RIGHT LEG",
   "bSMALL LETTER D WITH CURLbCAPITAL LETTER OUbSMALL~~bCAPITAL LETTER Z WITH HOOKbSMALL~~~~",
   "bCAPITAL LETTER A WITH DOT ABOVEbSMALL~~~~~bCAPITAL LETTER E WITH CEDILLAbSMALL~~~~",
   "bCAPITAL LETTER O WITH DIAERESIS AND MACRONbSMALL~~~~~~bCAPITAL LETTER O WITH TILDE~~",
   "bSMALL~~~~~~bCAPITAL LETTER O WITH DOT ABOVEbSMALL~~~~~",
   "bCAPITAL LETTER O WITH DOT ABOVE AND MACRONbSMALL~~~~~~~bCAPITAL LETTER Y WITH~bSMALL~~~~",
   "dL WITH CURLdN~~dT~~dDOTLESS JdDB DIGRAPHdQP~bCAPITAL LETTER A WITH STROKEdC~~bSMALL~~~~",
   "bCAPITAL LETTER L WITH BARdT WITH DIAGONAL STROKEbSMALL LETTER S WITH SWASH TAILdZ~~~",
   "bCAPITAL LETTER GLOTTAL STOPbSMALL~~~bCAPITAL LETTER B WITH STROKEdU BARdTURNED V",
   "dE WITH STROKEbSMALL~~~~bCAPITAL LETTER J~~bSMALL~~~~bCAPITAL LETTER SMALL Q WITH HOOK TAIL",
   "bSMALL LETTER~~~~bCAPITAL LETTER R WITH STROKEbSMALL~~~~bCAPITAL LETTER Y~~bSMALL~~~~dTURNED A",
   "dALPHAdTURNED~dB WITH HOOKdOPEN OdC WITH CURLdD WITH TAILfHOOKdREVERSED EdSCHWAeWITH HOOK",
   "dOPEN EdREVERSED~~gWITH HOOKdCLOSED REVERSED OPEN EdDOTLESS J WITH STROKEdG WITH HOOKdSCRIPT G",
   "bLETTER SMALL CAPITAL~bSMALL LETTER GAMMAdRAMS HORNdTURNED HdH WITH HOOKdHENG~~dI WITH STROKE",
   "dIOTAbLETTER SMALL CAPITAL IbSMALL LETTER L WITH MIDDLE TILDEfBELTfRETROFLEX HOOKdLEZH",
   "dTURNED MfWITH LONG LEGdM WITH HOOKdN WITH LEFT~fRETROFLEX~bLETTER SMALL CAPITAL N",
   "bSMALL LETTER BARRED ObLETTER SMALL CAPITAL OEbSMALL LETTER CLOSED OMEGAdPHIdTURNED R",
   "fWITH LONG LEGgHOOKdR WITH LONG LEGfTAILfFISHHOOKdREVERSED~~~bLETTER SMALL CAPITAL ReINVERTED~",
   "bSMALL LETTER S WITH HOOKdESHdDOTLESS J WITH STROKE AND HOOKdSQUAT REVERSED ESHdESH WITH CURL",
   "dTURNED TdT WITH RETROFLEX HOOKdU BARdUPSILONdV WITH HOOKdTURNED VeWeYbLETTER SMALL CAPITAL~",
   "bSMALL LETTER Z WITH RETROFLEX HOOKfCURLdEZHeWITH CURLbLETTER GLOTTAL STOP",
   "cPHARYNGEAL VOICED FRICATIVEcINVERTED GLOTTAL STOPcSTRETCHED CcBILABIAL CLICKcSMALL CAPITAL B",
   "bSMALL LETTER CLOSED OPEN EbLETTER SMALL CAPITAL G WITH HOOKeH",
   "bSMALL LETTER J WITH CROSSED-TAILdTURNED KbLETTER SMALL CAPITAL LbSMALL LETTER Q WITH HOOK",
   "bLETTER GLOTTAL STOP WITH STROKEcREVERSED~~~~bSMALL LETTER DZ DIGRAPHdDEZH~",
   "dDZ DIGRAPH WITH CURLdTS DIGRAPHdTESH~dTC DIGRAPH WITH CURLdFENG DIGRAPHdLS~dLZ~",
   "bLETTER BILABIAL PERCUSSIVEcBIDENTAL~bSMALL LETTER TURNED H WITH FISHHOOKhAND TAIL",
   "aMODIFIER LETTER SMALL HeWITH HOOKdJdRdTURNED~fWITH HOOKdCAPITAL INVERTED RdWdYcPRIMEcDOUBLE~",
   "cTURNED COMMAcAPOSTROPHEcREVERSED COMMAcRIGHT HALF RINGcLEFT~~cGLOTTAL STOPcREVERSED~~",
   "cLEFT ARROWHEADcRIGHT~cUP~cDOWN~cCIRCUMFLEX ACCENTaCARONaMODIFIER LETTER VERTICAL LINEcMACRON",
   "cACUTE ACCENTcGRAVE~cLOW VERTICAL LINEdMACRONdGRAVE ACCENTdACUTE~cTRIANGULAR COLONcHALF~~",
   "cCENTRED RIGHT HALF RINGdLEFT~~cUP TACKcDOWN~cPLUS SIGNcMINUS~aBREVEaDOT ABOVEaRING~aOGONEK",
   "aSMALL TILDEaDOUBLE ACUTE ACCENTaMODIFIER LETTER RHOTIC HOOKcCROSS ACCENTcSMALL GAMMAdLdSdX",
   "dREVERSED GLOTTAL STOPcEXTRA-HIGH TONE BARcHIGH~~cMID~~cLOW~~cEXTRA-LOW~~",
   "cYIN DEPARTING TONE MARKcYANG~~~cVOICINGcUNASPIRATEDcDOUBLE APOSTROPHEcLOW DOWN ARROWHEADdUP~",
   "dLEFT~dRIGHT~dRINGcMIDDLE GRAVE ACCENTdDOUBLE~~eACUTE~cLOW TILDEcRAISED COLONcBEGIN HIGH TONE",
   "cEND~~cBEGIN LOW~cEND~~cSHELFcOPEN~cLOW LEFT ARROWaCOMBINING GRAVE ACCENTbACUTE~bCIRCUMFLEX~",
   "bTILDEbMACRONbOVERLINEbBREVEbDOT ABOVEbDIAERESISbHOOK ABOVEbRING~bDOUBLE ACUTE ACCENTbCARON",
   "bVERTICAL LINE ABOVEbDOUBLE~~~cGRAVE ACCENTbCANDRABINDUbINVERTED BREVEbTURNED COMMA ABOVEb~~",
   "bREVERSED~~bCOMMA ABOVE RIGHTbGRAVE ACCENT BELOWbACUTE~~bLEFT TACK~bRIGHT~~bLEFT ANGLE ABOVE",
   "bHORNbLEFT HALF RING BELOWbUP TACK~bDOWN~~bPLUS SIGN~bMINUS~~bPALATALIZED HOOK~bRETROFLEX~~",
   "bDOT~bDIAERESIS~bRING~bCOMMA~bCEDILLAbOGONEKbVERTICAL LINE BELOWbBRIDGE~bINVERTED DOUBLE ARCH~",
   "bCARON~bCIRCUMFLEX ACCENT~bBREVE~bINVERTED~~bTILDE~bMACRON~bLOW LINEbDOUBLE~~bTILDE OVERLAY",
   "bSHORT STROKE~bLONG~~bSHORT SOLIDUS~bLONG~~bRIGHT HALF RING BELOWbINVERTED BRIDGE~bSQUARE~",
   "bSEAGULL~bX ABOVEbVERTICAL TILDEbDOUBLE OVERLINEbGRAVE TONE MARKbACUTE~~bGREEK PERISPOMENI",
   "cKORONIScDIALYTIKA TONOScYPOGEGRAMMENIbBRIDGE ABOVEbEQUALS SIGN BELOWbDOUBLE VERTICAL LINE~",
   "bLEFT ANGLE~bNOT TILDE ABOVEbHOMOTHETIC~bALMOST EQUAL TO~bLEFT RIGHT ARROW BELOWbUPWARDS~~",
   "bGRAPHEME JOINERbRIGHT ARROWHEAD ABOVEbLEFT HALF RING~bFERMATAbX BELOWbLEFT ARROWHEAD~bRIGHT~~",
   "dAND UP ARROWHEAD~cHALF RING ABOVEbDOT ABOVE RIGHTbASTERISK BELOWbDOUBLE RING~bZIGZAG ABOVE",
   "bDOUBLE BREVE BELOWdcMACRONdBELOWcTILDEcINVERTED BREVEcRIGHTWARDS ARROW BELOW",
   "bLATIN SMALL LETTER AeEeIeOeUeCeDeHeMeReTeVeXaGREEK CAPITAL LETTER HETAbSMALL~~",
   "bCAPITAL LETTER ARCHAIC SAMPIbSMALL~~~bNUMERAL SIGNbLOWER~~bCAPITAL LETTER PAMPHYLIAN DIGAMMA",
   "bSMALL~~~@37AbYPOGEGRAMMENIbSMALL REVERSED LUNATE SIGMA SYMBOLcDOTTED~~~cREVERSED~~~~",
   "bQUESTION MARKbCAPITAL LETTER YOT@384bTONOSbDIALYTIKA~bCAPITAL LETTER ALPHA WITH~bANO TELEIA",
   "bCAPITAL LETTER EPSILON WITH TONOSdETA~~dIOTA~~@38CdOMICRON~~@38EdUPSILON~~dOMEGA~~",
   "bSMALL LETTER IOTA WITH DIALYTIKA AND~bCAPITAL LETTER ALPHAdBETAdGAMMAdDELTAdEPSILONdZETAdETA",
   "dTHETAdIOTAdKAPPAdLAMDAdMUdNUdXIdOMICRONdPIdRHO@3A3dSIGMAdTAUdUPSILONdPHIdCHIdPSIdOMEGA",
   "dIOTA WITH DIALYTIKAdUPSILON~~bSMALL LETTER ALPHA WITH TONOSdEPSILON~~dETA~~dIOTA~~",
   "dUPSILON WITH DIALYTIKA AND~dALPHAdBETAdGAMMAdDELTAdEPSILONdZETAdETAdTHETAdIOTAdKAPPAdLAMDAdMU",
   "dNUdXIdOMICRONdPIdRHOdFINAL SIGMAd~dTAUdUPSILONdPHIdCHIdPSIdOMEGAdIOTA WITH DIALYTIKA",
   "dUPSILON~~dOMICRON WITH TONOSdUPSILON~~dOMEGA~~bCAPITAL KAI SYMBOLbBETA~bTHETA~",
   "bUPSILON WITH HOOK~dACUTE AND~~dDIAERESIS~~~bPHI~bPI~bKAI~bLETTER ARCHAIC KOPPAbSMALL~~~",
   "bLETTER STIGMAbSMALL~~bLETTER DIGAMMAbSMALL~~bLETTER KOPPAbSMALL~~bLETTER SAMPIbSMALL~~",
   "aCOPTIC CAPITAL LETTER SHEIbSMALL~~bCAPITAL LETTER FEIbSMALL~~bCAPITAL LETTER KHEIbSMALL~~",
   "bCAPITAL LETTER HORIbSMALL~~bCAPITAL LETTER GANGIAbSMALL~~bCAPITAL LETTER SHIMAbSMALL~~",
   "bCAPITAL LETTER DEIbSMALL~~aGREEK KAPPA SYMBOLbRHO~bLUNATE SIGMA~bLETTER YOT",
   "bCAPITAL THETA SYMBOLbLUNATE EPSILON~bREVERSED~~~bCAPITAL LETTER SHObSMALL~~",
   "bCAPITAL LUNATE SIGMA SYMBOLcLETTER SANbSMALL~~bRHO WITH STROKE SYMBOL",
   "bCAPITAL REVERSED LUNATE SIGMA~cDOTTED~~~cREVERSED~~~~aCYRILLIC CAPITAL LETTER IE WITH GRAVE",
   "dIOdDJEdGJEdUKRAINIAN IEdDZEdBYELORUSSIAN-UKRAINIAN IdYIdJEdLJEdNJEdTSHEdKJEdI WITH GRAVE",
   "dSHORT UdDZHEdAdBEdVEdGHEdDEdIEdZHEdZEdIdSHORT~dKAdELdEMdENdOdPEdERdESdTEdUdEFdHAdTSEdCHEdSHA",
   "dSHCHAdHARD SIGNdYERUdSOFT SIGNdEdYUdYAbSMALL LETTER AdBEdVEdGHEdDEdIEdZHEdZEdIdSHORT~dKAdEL",
   "dEMdENdOdPEdERdESdTEdUdEFdHAdTSEdCHEdSHAdSHCHAdHARD SIGNdYERUdSOFT SIGNdEdYUdYAdIE WITH GRAVE",
   "dIOdDJEdGJEdUKRAINIAN IEdDZEdBYELORUSSIAN-UKRAINIAN IdYIdJEdLJEdNJEdTSHEdKJEdI WITH GRAVE",
   "dSHORT UdDZHEbCAPITAL LETTER OMEGAbSMALL~~bCAPITAL LETTER YATbSMALL~~",
   "bCAPITAL LETTER IOTIFIED EbSMALL~~~bCAPITAL LETTER LITTLE YUSbSMALL~~~",
   "bCAPITAL LETTER IOTIFIED~~bSMALL~~~~bCAPITAL LETTER BIG~bSMALL~~~bCAPITAL LETTER IOTIFIED~~",
   "bSMALL~~~~bCAPITAL LETTER KSIbSMALL~~bCAPITAL LETTER PSIbSMALL~~bCAPITAL LETTER FITAbSMALL~~",
   "bCAPITAL LETTER IZHITSAbSMALL~~bCAPITAL LETTER IZHITSA WITH DOUBLE GRAVE ACCENTbSMALL~~~~~~",
   "bCAPITAL LETTER UKbSMALL~~bCAPITAL LETTER ROUND OMEGAbSMALL~~~bCAPITAL LETTER OMEGA WITH TITLO",
   "bSMALL~~~~bCAPITAL LETTER OTbSMALL~~bCAPITAL LETTER KOPPAbSMALL~~bTHOUSANDS SIGN",
   "aCOMBINING CYRILLIC TITLOcPALATALIZATIONcDASIA PNEUMATAcPSILI~cPOKRYTIEcHUNDRED THOUSANDS SIGN",
   "cMILLIONS~aCYRILLIC CAPITAL LETTER SHORT I WITH TAILbSMALL~~~~~bCAPITAL LETTER SEMISOFT SIGN",
   "bSMALL~~~bCAPITAL LETTER ER WITH TICKbSMALL~~~~bCAPITAL LETTER GHE WITH UPTURNbSMALL~~~~",
   "bCAPITAL LETTER GHE WITH STROKEbSMALL~~~~bCAPITAL LETTER GHE WITH MIDDLE HOOKbSMALL~~~~~",
   "bCAPITAL LETTER ZHE WITH DESCENDERbSMALL~~~~bCAPITAL LETTER ZE~~bSMALL~~~~bCAPITAL LETTER KA~~",
   "bSMALL~~~~bCAPITAL LETTER KA WITH VERTICAL STROKEbSMALL~~~~~bCAPITAL LETTER KA WITH~bSMALL~~~~",
   "bCAPITAL LETTER BASHKIR KAbSMALL~~~bCAPITAL LETTER EN WITH DESCENDERbSMALL~~~~",
   "bCAPITAL LIGATURE EN GHEbSMALL~~~bCAPITAL LETTER PE WITH MIDDLE HOOKbSMALL~~~~~",
   "bCAPITAL LETTER ABKHASIAN HAbSMALL~~~bCAPITAL LETTER ES WITH DESCENDERbSMALL~~~~",
   "bCAPITAL LETTER TE~~bSMALL~~~~bCAPITAL LETTER STRAIGHT UbSMALL~~~",
   "bCAPITAL LETTER STRAIGHT U WITH STROKEbSMALL~~~~~bCAPITAL LETTER HA WITH DESCENDERbSMALL~~~~",
   "bCAPITAL LIGATURE TE TSEbSMALL~~~bCAPITAL LETTER CHE WITH DESCENDERbSMALL~~~~",
   "bCAPITAL LETTER CHE WITH VERTICAL STROKEbSMALL~~~~~bCAPITAL LETTER SHHAbSMALL~~",
   "bCAPITAL LETTER ABKHASIAN CHEbSMALL~~~bCAPITAL LETTER ABKHASIAN CHE WITH DESCENDERbSMALL~~~~~",
   "bLETTER PALOCHKAbCAPITAL LETTER ZHE WITH BREVEbSMALL~~~~bCAPITAL LETTER KA WITH HOOKbSMALL~~~~",
   "bCAPITAL LETTER EL WITH TAILbSMALL~~~~bCAPITAL LETTER EN WITH HOOKbSMALL~~~~",
   "bCAPITAL LETTER EN WITH TAILbSMALL~~~~bCAPITAL LETTER KHAKASSIAN CHEbSMALL~~~",
   "bCAPITAL LETTER EM WITH TAILbSMALL~~~~dPALOCHKAbCAPITAL LETTER A WITH BREVEbSMALL~~~~",
   "bCAPITAL LETTER A WITH DIAERESISbSMALL~~~~bCAPITAL LIGATURE A IEbSMALL~~~",
   "bCAPITAL LETTER IE WITH BREVEbSMALL~~~~bCAPITAL LETTER SCHWAbSMALL~~",
   "bCAPITAL LETTER SCHWA WITH DIAERESISbSMALL~~~~bCAPITAL LETTER ZHE~~bSMALL~~~~",
   "bCAPITAL LETTER ZE~~bSMALL~~~~bCAPITAL LETTER ABKHASIAN DZEbSMALL~~~",
   "bCAPITAL LETTER I WITH MACRONbSMALL~~~~bCAPITAL LETTER I WITH DIAERESISbSMALL~~~~",
   "bCAPITAL LETTER O~~bSMALL~~~~bCAPITAL LETTER BARRED ObSMALL~~~",
   "bCAPITAL LETTER BARRED O WITH DIAERESISbSMALL~~~~~bCAPITAL LETTER E~~bSMALL~~~~",
   "bCAPITAL LETTER U WITH MACRONbSMALL~~~~bCAPITAL LETTER U WITH DIAERESISbSMALL~~~~",
   "bCAPITAL LETTER U WITH DOUBLE ACUTEbSMALL~~~~~bCAPITAL LETTER CHE WITH DIAERESISbSMALL~~~~",
   "bCAPITAL LETTER GHE WITH DESCENDERbSMALL~~~~bCAPITAL LETTER YERU WITH DIAERESISbSMALL~~~~",
   "bCAPITAL LETTER GHE WITH STROKE AND HOOKbSMALL~~~~~~bCAPITAL LETTER HA WITH~bSMALL~~~~",
   "bCAPITAL LETTER HA WITH STROKEbSMALL~~~~bCAPITAL LETTER KOMI DEbSMALL~~~",
   "bCAPITAL LETTER KOMI DJEbSMALL~~~bCAPITAL LETTER KOMI ZJEbSMALL~~~bCAPITAL LETTER KOMI DZJE",
   "bSMALL~~~bCAPITAL LETTER KOMI LJEbSMALL~~~bCAPITAL LETTER KOMI NJEbSMALL~~~",
   "bCAPITAL LETTER KOMI SJEbSMALL~~~bCAPITAL LETTER KOMI TJEbSMALL~~~bCAPITAL LETTER REVERSED ZE",
   "bSMALL~~~bCAPITAL LETTER EL WITH HOOKbSMALL~~~~bCAPITAL LETTER LHAbSMALL~~bCAPITAL LETTER RHA",
   "bSMALL~~bCAPITAL LETTER YAEbSMALL~~bCAPITAL LETTER QAbSMALL~~bCAPITAL LETTER WEbSMALL~~",
   "bCAPITAL LETTER ALEUT KAbSMALL~~~bCAPITAL LETTER EL WITH MIDDLE HOOKbSMALL~~~~~",
   "bCAPITAL LETTER EN~~~bSMALL~~~~~bCAPITAL LETTER PE WITH DESCENDERbSMALL~~~~",
   "bCAPITAL LETTER SHHA~~bSMALL~~~~bCAPITAL LETTER EN WITH LEFT HOOKbSMALL~~~~~",
   "bCAPITAL LETTER DZZHEbSMALL~~bCAPITAL LETTER DCHEbSMALL~~bCAPITAL LETTER EL WITH DESCENDER",
   "bSMALL~~~~@531aARMENIAN CAPITAL LETTER AYBdBENdGIMdDAdECHdZAdEHdETdTOdZHEdINIdLIWNdXEHdCAdKEN",
   "dHOdJAdGHADdCHEHdMENdYIdNOWdSHAdVOdCHAdPEHdJHEHdRAdSEHdVEWdTIWNdREHdCOdYIWNdPIWRdKEHdOHdFEH",
   "@559bMODIFIER LETTER LEFT HALF RINGbAPOSTROPHEbEMPHASIS MARKbEXCLAMATION~bCOMMAbQUESTION MARK",
   "bABBREVIATION~bSMALL LETTER TURNED AYBd~dBENdGIMdDAdECHdZAdEHdETdTOdZHEdINIdLIWNdXEHdCAdKENdHO",
   "dJAdGHADdCHEHdMENdYIdNOWdSHAdVOdCHAdPEHdJHEHdRAdSEHdVEWdTIWNdREHdCOdYIWNdPIWRdKEHdOHdFEH",
   "cLIGATURE ECH YIWNcLETTER YI WITH STROKEbFULL STOPbHYPHEN@58D",
   "aRIGHT-FACING ARMENIAN ETERNITY SIGNaLEFT-FACING~~~aARMENIAN DRAM~@591aHEBREW ACCENT ETNAHTA",
   "cSEGOLcSHALSHELETcZAQEF QATANdGADOLcTIPEHAcREVIAcZARQAcPASHTAcYETIVcTEVIRcGERESHdMUQDAM",
   "cGERSHAYIMcQARNEY PARAcTELISHA GEDOLAcPAZERcATNAH HAFUKHcMUNAHcMAHAPAKHcMERKHAdKEFULAcDARGA",
   "cQADMAcTELISHA QETANAcYERAH BEN YOMOcOLEcILUYcDEHIcZINORbMARK MASORA CIRCLEbPOINT SHEVA",
   "cHATAF SEGOLdPATAHdQAMATScHIRIQcTSEREcSEGOLcPATAHcQAMATScHOLAMdHASER FOR VAVcQUBUTS",
   "cDAGESH OR MAPIQcMETEGbPUNCTUATION MAQAFbPOINT RAFEbPUNCTUATION PASEQbPOINT SHIN DOTcSIN~",
   "bPUNCTUATION SOF PASUQbMARK UPPER DOTcLOWER~bPUNCTUATION NUN HAFUKHAbPOINT QAMATS QATAN@5D0",
   "bLETTER ALEFcBETcGIMELcDALETcHEcVAVcZAYINcHETcTETcYODcFINAL KAFc~cLAMEDcFINAL MEMc~cFINAL NUN",
   "c~cSAMEKHcAYINcFINAL PEc~cFINAL TSADIc~cQOFcRESHcSHINcTAV@5EFbYOD TRIANGLE",
   "bLIGATURE YIDDISH DOUBLE VAVdVAV YODdDOUBLE~bPUNCTUATION GERESHcGERSHAYIM@600",
   "aARABIC NUMBER SIGNbSIGN SANAHbFOOTNOTE MARKERbSIGN SAFHAcSAMVATbNUMBER MARK ABOVE",
   "aARABIC-INDIC CUBE ROOTbFOURTH~aARABIC RAYaARABIC-INDIC PER MILLE SIGNcTEN THOUSAND~aAFGHANI~",
   "aARABIC COMMAbDATE SEPARATORbPOETIC VERSE SIGNbSIGN MISRAcSALLALLAHOU ALAYHE WASSALLAM",
   "cALAYHE ASSALLAMcRAHMATULLAH ALAYHEcRADI ALLAHOU ANHUcTAKHALLUSbSMALL HIGH TAH",
   "dLIGATURE ALEF WITH LAM WITH YEHdZAINcFATHAcDAMMAcKASRAbSEMICOLONbLETTER MARKbEND OF TEXT~",
   "bTRIPLE DOT PUNCTUATION~bQUESTION~bLETTER KASHMIRI YEHcHAMZAcALEF WITH MADDA ABOVEeHAMZA~",
   "cWAW~~~cALEF WITH HAMZA BELOWcYEH WITH HAMZA ABOVEcALEFcBEHcTEH MARBUTAdcTHEHcJEEMcHAHcKHAH",
   "cDALcTHALcREHcZAINcSEENcSHEENcSADcDADcTAHcZAHcAINcGHAINcKEHEH WITH TWO DOTS ABOVE",
   "eTHREE DOTS BELOWcFARSI YEH WITH INVERTED VfTWO DOTS ABOVEfTHREE~~bTATWEELbLETTER FEHcQAFcKAF",
   "cLAMcMEEMcNOONcHEHcWAWcALEF MAKSURAcYEHbFATHATANbDAMMATANbKASRATANbFATHAbDAMMAbKASRAbSHADDA",
   "bSUKUNbMADDAH ABOVEbHAMZA~cBELOWbSUBSCRIPT ALEFbINVERTED DAMMAbMARK NOON GHUNNAbZWARAKAY",
   "bVOWEL SIGN SMALL V ABOVEdINVERTED~~~dDOT BELOWbREVERSED DAMMAbFATHA WITH TWO DOTS",
   "bWAVY HAMZA BELOWaARABIC-INDIC DIGIT ZEROcONEcTWOcTHREEcFOURcFIVEcSIXcSEVENcEIGHTcNINE",
   "aARABIC PERCENT SIGNbDECIMAL SEPARATORbTHOUSANDS~bFIVE POINTED STARbLETTER DOTLESS BEHdQAF",
   "cSUPERSCRIPT ALEFcALEF WASLAdWITH WAVY HAMZA ABOVEgBELOWcHIGH HAMZAeALEFeWAW",
   "cU WITH HAMZA ABOVEcHIGH HAMZA YEHcTTEHcTTEHEHcBEEHcTEH WITH RINGeTHREE DOTS ABOVE DOWNWARDS",
   "cPEHcTEHEHcBEHEHcHAH WITH HAMZA ABOVEeTWO DOTS VERTICAL~cNYEHcDYEHcHAH WITH THREE DOTS ABOVE",
   "cTCHEHcTCHEHEHcDDALcDAL WITH RINGeDOT BELOWgAND SMALL TAHcDAHALcDDAHALcDUL",
   "cDAL WITH THREE DOTS ABOVE DOWNWARDSeFOUR DOTS ABOVEcRREHcREH WITH SMALL VeRINGeDOT BELOW",
   "eSMALL V~eDOT BELOW AND DOT ABOVEeTWO DOTS~cJEHcREH WITH FOUR DOTS ABOVE",
   "cSEEN WITH DOT BELOW AND DOT~eTHREE DOTS BELOWhAND THREE DOTS ABOVEcSAD WITH TWO DOTS BELOW",
   "eTHREE DOTS ABOVEcTAH~~~~cAIN~~~~cDOTLESS FEHcFEH WITH DOT MOVED BELOWf~cVEH",
   "cFEH WITH THREE DOTS BELOWcPEHEHcQAF WITH DOT ABOVEeTHREE DOTS~cKEHEHcSWASH KAFcKAF WITH RING",
   "eDOT ABOVEcNGcKAF WITH THREE DOTS BELOWcGAFdWITH RINGcNGOEHcGAF WITH TWO DOTS BELOWcGUEH",
   "cGAF WITH THREE DOTS ABOVEcLAM WITH SMALL VeDOT ABOVEeTHREE DOTS~gBELOWcNOON WITH DOT~dGHUNNA",
   "cRNOONcNOON WITH RINGeTHREE DOTS ABOVEcHEH DOACHASHMEEcTCHEH WITH DOT ABOVEcHEH WITH YEH~dGOAL",
   "eWITH HAMZA ABOVEcTEH MARBUTA GOALcWAW WITH RINGcKIRGHIZ OEc~cUcYUcKIRGHIZ~",
   "cWAW WITH TWO DOTS ABOVEcVEcFARSI YEHcYEH WITH TAILeSMALL VcWAW WITH DOT ABOVEcE",
   "cYEH WITH THREE DOTS BELOWdBARREEeWITH HAMZA ABOVEbFULL STOPbLETTER AE",
   "bSMALL HIGH LIGATURE SAD WITH LAM WITH ALEF MAKSURAeQAF~~~~~dMEEM INITIAL FORMdLAM ALEFdJEEM",
   "dTHREE DOTSdSEENbEND OF AYAHbSTART OF RUB EL HIZBbSMALL HIGH ROUNDED ZEROdUPRIGHT RECTANGULAR~",
   "dDOTLESS HEAD OF KHAHdMEEM ISOLATED FORMcLOW SEENcHIGH MADDAcWAWcYEHcHIGH~dNOON",
   "bPLACE OF SAJDAHbEMPTY CENTRE LOW STOPdHIGH~bROUNDED HIGH STOP WITH FILLED CENTRE",
   "bSMALL LOW MEEMbLETTER DAL WITH INVERTED VcREH~~~aEXTENDED ARABIC-INDIC DIGIT ZEROdONEdTWO",
   "dTHREEdFOURdFIVEdSIXdSEVENdEIGHTdNINEaARABIC LETTER SHEEN WITH DOT BELOWcDAD~~~cGHAIN~~~",
   "bSIGN SINDHI AMPERSANDdPOSTPOSITION MENbLETTER HEH WITH INVERTED VaSYRIAC END OF PARAGRAPH",
   "bSUPRALINEAR FULL STOPbSUBLINEAR~~bSUPRALINEAR COLONbSUBLINEAR~bHORIZONTAL~bCOLON SKEWED LEFT",
   "dRIGHTbSUPRALINEAR COLON SKEWED LEFTbSUBLINEAR COLON SKEWED RIGHTbCONTRACTIONbHARKLEAN OBELUS",
   "cMETOBELUScASTERISCUS@70FbABBREVIATION MARKbLETTER ALAPHcSUPERSCRIPT~cBETHcGAMALdGARSHUNI",
   "cDALATHcDOTLESS DALATH RISHcHEcWAWcZAINcHETHcTETHdGARSHUNIcYUDHdHEcKAPHcLAMADHcMIMcNUNcSEMKATH",
   "cFINAL~cEcPEcREVERSED~cSADHEcQAPHcRISHcSHINcTAWcPERSIAN BHETHdGHAMALdDHALATHbPTHAHA ABOVE",
   "cBELOWcDOTTEDbZQAPHA ABOVEcBELOWcDOTTEDbRBASA ABOVEcBELOWbDOTTED ZLAMA HORIZONTALdANGULAR",
   "bHBASA ABOVEcBELOWbHBASA-ESASA DOTTEDbESASA ABOVEcBELOWbRWAHAbFEMININE DOTbQUSHSHAYAbRUKKAKHA",
   "bTWO VERTICAL DOTS ABOVEeBELOWbTHREE DOTS ABOVEdBELOWbOBLIQUE LINE ABOVEdBELOWbMUSICbBARREKH",
   "@74DbLETTER SOGDIAN ZHAINdKHAPHdFEaARABIC LETTER BEH WITH THREE DOTS HORIZONTALLY BELOW",
   "eDOT BELOW AND THREE DOTS ABOVEeTHREE DOTS POINTING UPWARDS BELOWjAND TWO DOTS ABOVE",
   "eTWO DOTS BELOW AND DOT~eINVERTED SMALL V BELOWeSMALL VcHAH WITH TWO DOTS ABOVE",
   "eTHREE DOTS POINTING UPWARDS BELOWcDAL WITH TWO DOTS VERTICALLY BELOW AND SMALL TAH",
   "eINVERTED SMALL V BELOWcREH WITH STROKEcSEEN WITH FOUR DOTS ABOVEcAIN WITH TWO~~",
   "eTHREE DOTS POINTING DOWNWARDS~eTWO DOTS VERTICALLY~cFEH WITH TWO DOTS BELOW",
   "eTHREE DOTS POINTING UPWARDS~cKEHEH WITH DOT ABOVEeTHREE DOTS~gPOINTING UPWARDS BELOW",
   "cMEEM WITH DOT ABOVEfBELOWcNOON WITH TWO DOTS~eSMALL TAHfVcLAM WITH BAR",
   "cREH WITH TWO DOTS VERTICALLY ABOVEeHAMZA~cSEEN WITH TWO DOTS VERTICALLY~",
   "cHAH WITH SMALL ARABIC LETTER TAH BELOWiAND TWO DOTScSEEN~~~~~~~~cREH~~~~~~~~",
   "cHAH WITH SMALL ARABIC LETTER TAH ABOVEcALEF WITH EXTENDED ARABIC-INDIC DIGIT TWO~hTHREE~",
   "cFARSI YEH WITH EXTENDED ARABIC-INDIC DIGIT TWO~iTHREE~iFOUR BELOW",
   "cWAW WITH EXTENDED ARABIC-INDIC DIGIT TWO ABOVEhTHREE~",
   "cYEH BARREE WITH EXTENDED ARABIC-INDIC DIGIT TWO~iTHREE~",
   "cHAH WITH EXTENDED ARABIC-INDIC DIGIT FOUR BELOW",
   "cSEEN WITH EXTENDED ARABIC-INDIC DIGIT FOUR ABOVEeINVERTED VcKAF WITH TWO DOTS ABOVE",
   "aTHAANA LETTER HAAcSHAVIYANIcNOONUcRAAcBAAcLHAVIYANIcKAAFUcALIFUcVAAVUcMEEMUcFAAFUcDHAALUcTHAA",
   "cLAAMUcGAAFUcGNAVIYANIcSEENUcDAVIYANIcZAVIYANIcTAVIYANIcYAAcPAVIYANIcJAVIYANIcCHAVIYANIcTTAA",
   "cHHAAcKHAAcTHAALUcZAAcSHEENUcSAADHUcDAADHUcTOcZOcAINUcGHAINUcQAAFUcWAAVUbABAFILIbAABAAFILI",
   "bIBIFILIbEEBEEFILIbUBUFILIbOOBOOFILIbEBEFILIbEYBEYFILIbOBOFILIbOABOAFILIbSUKUNbLETTER NAA@7C0",
   "aNKO DIGIT ZEROcONEcTWOcTHREEcFOURcFIVEcSIXcSEVENcEIGHTcNINEbLETTER AcEEcIcEcUcOOcOcDAGBASINNA",
   "cNcBAcPAcTAcJAcCHAcDAcRAcRRAcSAcGBAcFAcKAcLAcNA WOLOSOcMAcNYAcNAcHAcWAcYAcNYA WOLOSOcJONA JA",
   "dCHAdRAbCOMBINING SHORT HIGH TONEdLOW~dRISING~cLONG DESCENDING~dHIGH~dLOW~dRISING~",
   "cNASALIZATION MARKcDOUBLE DOT ABOVEbHIGH TONE APOSTROPHEbLOW~~bSYMBOL OO DENNENcGBAKURUNEN",
   "bCOMMAbEXCLAMATION MARKbLAJANYALAN@7FDbDANTAYALANbDOROME SIGNbTAMAN~aSAMARITAN LETTER ALAFcBIT",
   "cGAMANcDALATcIYcBAAcZENcITcTITcYUTcKAAFcLABATcMIMcNUNcSINGAATcINcFIcTSAADIYcQUFcRISHcSHANcTAAF",
   "bMARK INcIN-ALAFcOCCLUSIONcDAGESHbMODIFIER LETTER EPENTHETIC YUTbMARK~~bVOWEL SIGN LONG EdE",
   "dOVERLONG AAdLONG~d~dOVERLONG AdLONG~dAbMODIFIER LETTER SHORT~bVOWEL SIGN~~dLONG UdU",
   "bMODIFIER LETTER IbVOWEL SIGN LONG~dIdOdSUKUNbMARK NEQUDAA@830bPUNCTUATION~cAFSAAQcANGEDcBAU",
   "cATMAAUcSHIYYAALAAbABBREVIATION MARKbPUNCTUATION MELODIC QITSAcZIQAAcQITSAcZAEFcTURUcARKAANU",
   "cSOF MASHFAATcANNAAU@840aMANDAIC LETTER HALQAcABcAGcADcAHcUSHENNAcAZcITcATTcAKSAcAKcALcAMcAN",
   "cAScINcAPcASZcAQcARcASHcATcDUSHENNAcKADcAINbAFFRICATION MARKbVOCALIZATION~bGEMINATION~@85E",
   "bPUNCTUATION@860aSYRIAC LETTER MALAYALAM NGAdJAdNYAdTTAdNNAdNNNAdBHAdRAdLLAdLLLAdSSA@870",
   "aARABIC LETTER ALEF WITH ATTACHED FATHAfTOP RIGHT~eRIGHT MIDDLE STROKEeLEFT~~eATTACHED KASRA",
   "fBOTTOM RIGHT~fROUND DOT ABOVEfRIGHT ROUND DOTfLEFT~~fROUND DOT BELOWeDOT ABOVE",
   "eATTACHED TOP RIGHT FATHA AND~~eRIGHT MIDDLE STROKE~~~eATTACHED BOTTOM RIGHT KASRA~~~",
   "fTOP RIGHT FATHA AND LEFT RINGeRIGHT MIDDLE STROKE~~~eATTACHED BOTTOM RIGHT KASRA~~~",
   "fRIGHT HAMZAfLEFT~bTATWEEL WITH OVERSTRUCK~eWAWdTWO DOTS BELOWbLETTER THIN YEH",
   "bBASELINE ROUND DOTbRAISED~~bLETTER NOON WITH INVERTED SMALL VcHAH WITH INVERTED SMALL V BELOW",
   "cTAH WITH DOT~eTHREE DOTS~cKEHEH WITH TWO DOTS VERTICALLY~bVERTICAL TAIL@890bPOUND MARK ABOVE",
   "bPIASTRE~~@898bSMALL HIGH WORD AL-JUZcLOW WORD ISHMAAMeIMAALAeTASHEELbMADDA WAAJIB",
   "bSUPERSCRIPT ALEF MOKHASSASbDOUBLED MADDAbHALF MADDA OVER~bLETTER BEH WITH SMALL V BELOW",
   "eHAMZA ABOVEcJEEM WITH TWO DOTS~cTAH~~~~cFEH WITH DOT BELOW AND THREE~~cQAF WITH DOT BELOW",
   "cLAM WITH DOUBLE BARcMEEM WITH THREE DOTS ABOVEcYEH WITH TWO DOTS BELOW AND HAMZA~iDOT~",
   "cREH WITH LOOPcWAW WITH DOT WITHINcROHINGYA YEHcLOW ALEFcDAL WITH THREE DOTS BELOWcSAD~~~~",
   "cGAF WITH INVERTED STROKEcSTRAIGHT WAWcZAIN WITH INVERTED V ABOVEcAIN WITH THREE DOTS BELOW",
   "cKAF WITH DOT~cQAF WITH DOT BELOW AND NO DOTS ABOVEcBEH WITH SMALL MEEM~cPEH~~~~",
   "cTEH WITH SMALL TEH~cREH WITH SMALL NOON~cYEH WITH TWO DOTS BELOW AND~~~cAFRICAN FEHdQAFdNOON",
   "cPEH WITH SMALL VcTEH~~~cTTEH~~~cTCHEH~~~cKEHEH~~~cGHAIN WITH THREE DOTS ABOVEcAFRICAN QAF~~~~",
   "cJEEM~~~~gBELOWcLAM WITH SMALL ARABIC LETTER TAH ABOVEcGRAFbSMALL FARSI YEHcHIGH~~",
   "dYEH BARREE WITH TWO DOTS BELOWdWORD SAHdZAHbLARGE ROUND DOT ABOVEeBELOWbSUKUN~bLARGE CIRCLE~",
   "cROUND DOT INSIDE~~bSMALL LOW WAWcHIGH WORD AR-RUBdSADdAINdQAFdNOON WITH KASRAcLOW~~~",
   "cHIGH WORD ATH-THALATHAeAS-SAJDAeAN-NISFeSAKTAeQIFeWAQFAdFOOTNOTE MARKERdSIGN SAFHA",
   "bDISPUTED END OF AYAHbTURNED DAMMA BELOWbCURLY FATHAcDAMMAcKASRAcFATHATANcDAMMATANcKASRATAN",
   "bTONE ONE DOT ABOVEcTWO DOTS~cLOOP~cONE DOT BELOWcTWO DOTS~cLOOP~bOPEN FATHATANcDAMMATAN",
   "cKASRATANbSMALL HIGH WAWbFATHA WITH RINGdDOT ABOVEbKASRA WITH DOT BELOWbLEFT ARROWHEAD ABOVE",
   "bRIGHT~~bLEFT ARROWHEAD BELOWbRIGHT~~bDOUBLE RIGHT ARROWHEAD ABOVEfWITH DOTb~~~~~bDAMMA~~",
   "bMARK SIDEWAYS NOON GHUNNA"]

end ClassSchema.Text.CharacterName
