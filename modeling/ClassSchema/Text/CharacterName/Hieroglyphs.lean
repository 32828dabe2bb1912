/-!
# Character names: hieroglyphs

The part of the table of character names from U+12000 to U+1CFFF: cuneiform and hieroglyphs.
-/

namespace ClassSchema.Text.CharacterName

/-- The names of cuneiform and hieroglyphs. -/
def hieroglyphs : List String :=
  ["@12000aCUNEIFORM SIGN AdTIMES AeBADeGAN2 TENUeHAeIGIeLAGAR GUNUeMUSHeSAGcA2cABdTIMES ASH2",
   "eDUN3 GUNUeGALeGAN2 TENUeHAeIGI GUNUeIMINeLAGABeSHESHeU PLUS U PLUS UdGUNUcAB2dTIMES BALAG",
   "eGAN2 TENUeME PLUS ENeSHA3eTAK4cADcAKdTIMES ERIN2eSHITA PLUS GISHcALdTIMES ALeDIM2eGISHeHA",
   "eKAD3eKIeSHEeUSHcALANcALEPHcAMARdTIMES SHEcANdOVER ANdTHREE TIMES",
   "dPLUS NAGA OPPOSING AN PLUS NAGAfSQUAREDcANSHEcAPINcARADdTIMES KURcARKABcASAL2cASHdZIDA TENU",
   "dKABA~dOVER ASH TUG2 OVER TUG2 TUG2 OVER TUG2 PAPfOVER ASHhCROSSING ASH OVER ASH OVER ASHcASH2",
   "cASHGABcBAcBADcBAG3cBAHAR2cBALdOVER BALcBALAGcBARcBARA2cBIdTIMES AeGAReIGI GUNUcBUdOVER BU AB",
   "fUNdCROSSING BUcBULUGdOVER BULUGcBURcBUR2cDAcDAGdKISIM5 TIMES A PLUS MASHfAMARfBALAGfBIfGA",
   "gPLUS MASHfGIfGIR2fGUDfHAfIRgPLUS LUfKAKfLAfLUgPLUS MASH2fLUMfNEfPAP PLUS PAPfSIfTAK4",
   "fU2 PLUS GIR2fUSHcDAMcDARcDARA3+1cDIcDIBcDIMdTIMES SHEcDIM2cDINdKASKAL U GUNU DISHc~cDU",
   "dOVER DUdGUNUdSHESHIGcDUBdTIMES ESH2cDUB2cDUGcDUGUDcDUHcDUNcDUN3dGUNUeGUNUcDUN4cDUR2cE",
   "dTIMES PAPdOVER E NUN OVER NUNcE2dTIMES A PLUS HA PLUS DAeGAReMIeSALeSHEeUcEDINcEGIRcELcEN",
   "dTIMES GAN2fTENUeMEdCROSSING ENdOPPOSING~dSQUAREDcERENcERIN2cESH2cEZENdTIMES AfPLUS LAL",
   "hTIMES LALeANeBADeDUN3 GUNUgGUNUeHAfGUNUeIGI~eKASKALfSQUAREDeKU3eLAeLAL TIMES LALeLIeLUeU2eUD",
   "cGAdGUNUcGA2dTIMES A PLUS DA PLUS HAg~gIGIeAB2 TENU PLUS TABeANeASHeASH2 PLUS GALeBAD",
   "eBAR PLUS RAeBURfPLUS RAeDAeDIeDIM TIMES SHEeDUBeELfPLUS LAeENfTIMES GAN2 TENUe~~eGAReGIeGI4",
   "fPLUS AeGIR2 PLUS SUeHA PLUS LU PLUS ESH2eHALfPLUS LAeHI PLUS LIeHUB2eIGI GUNU",
   "eISH PLUS HU PLUS ASHeKAKeKASKALeKIDfPLUS LALeKU3 PLUS ANeLAeME PLUS ENeMIeNUNfOVER NUNePAeSAL",
   "eSAReSHEfPLUS TUReSHIDeSUMeTAK4eUeUDfPLUS DUdOVER GA2cGABAdCROSSING GABAcGAD",
   "dOVER GAD GAR OVER GARcGALdGAD OVER GAD GAR OVER GARcGALAMcGAMcGANcGAN2dTENUdOVER GAN2",
   "dCROSSING~cGARcGAR3cGASHANcGESHTINdTIMES KURcGIdTIMES EeUdCROSSING GIcGI4dOVER GI4dCROSSING~",
   "cGIDIMcGIR2dGUNUcGIR3dTIMES A PLUS IGIeGAN2 TENUeIGIeLU PLUS~ePAcGISALcGISHdCROSSING GISH",
   "dTIMES BADeTAK4dTENUcGUdCROSSING GUcGU2dTIMES KAKfTIMES IGI GUNUeNUNeSAL PLUS TUG2dGUNUcGUD",
   "dTIMES A PLUS KURe~dOVER GUD LUGALcGULcGUMdTIMES SHEcGURcGUR7cGURUNcGURUSHcHAdTENUdGUNUcHALcHI",
   "dTIMES ASHeASH2eBADeDISHeGADeKINeNUNeSHEeUcHUcHUB2dTIMES ANeHALeKASKALeLISHeUDcHUL2cIdAcIB",
   "cIDIMdOVER IDIM BURfSQUAREDcIGcIGIdDIBdRIdOVER IGI SHIR OVER SHIR UD OVER UDdGUNUcIL",
   "dTIMES GAN2 TENUcIL2cIMdTIMES TAK4dCROSSING IMdOPPOSING~dSQUAREDcIMINcINcIRcISHcKAdTIMES AeAD",
   "fPLUS KU3eASH2eBADeBALAGeBAReBIeERIN2eESH2eGAeGALeGAN2 TENUeGARfPLUS SHA3 PLUS AeGIeGIR2",
   "eGISH PLUS SARfCROSSING GISHeGUeGUR7eIGIeIMeKAKeKIeKIDeLIeLUeMEfPLUS DUgGIgTEeMIfPLUS NUNUZeNE",
   "eNUNePIeRUeSAeSAReSHAeSHEeSHIDeSHUeSIGeSUHUReTAReUeU2eUDeUMUM TIMES PAeUSHeZIcKA2dCROSSING KA2",
   "cKABcKAD2+3dOVER KAD5cKAKdTIMES IGI GUNUcKALdTIMES BADdCROSSING KALcKAM2cKAM4cKASKAL",
   "dLAGAB TIMES U OVER LAGAB TIMES UdOVER KASKAL~~~~~~~cKESH2cKIdTIMES BADeUeUDcKIDcKINcKISAL",
   "cKISHcKISIM5dOVER KISIM5cKUdOVER HI TIMES ASH2 KU OVER HI TIMES ASH2cKU3+1dVARIANT FORMcKU7",
   "cKULdGUNUcKUNcKURdOPPOSING KURcKUSHU2cKWU318cLAcLAGABdTIMES AfPLUS DA PLUS HAgGARgLALeALeAN",
   "eASH ZIDA TENUeBADeBIeDAReENeGAeGAReGUDfPLUS GUDeHAeHALeHI TIMES NUNeIGI GUNUeIMfPLUS HAgLUeKI",
   "eKINeKU3eKULfPLUS HI PLUS AeLAGABeLISHeLUeLULeMEfPLUS ENeMUSHeNEeSHE PLUS SUM",
   "eSHITA PLUS GISH PLUS ERIN2hTENUeSHU2fPLUS SHU2eSUMeTAGeTAK4eTE PLUS A PLUS SU PLUS NAeU",
   "fPLUS AgU PLUS UeU2 PLUS ASHeUDeUSHdSQUAREDcLAGARdTIMES SHEfPLUS SUMdGUNUeOVER LAGAR GUNU SHE",
   "cLAHSHUcLALdTIMES LALcLAMdTIMES KURfPLUS RUcLIcLILcLIMMU2cLISHcLUdTIMES BADcLU2dTIMES ALeBAD",
   "eESH2fTENUeGAN2~eHI TIMES BADeIMeKAD2+1fPLUS ASHeKIeLA PLUS ASHeLAGABeME PLUS ENeNEeNU",
   "eSI PLUS ASHeSIK2 PLUS BUeTUG2dTENUdCROSSING LU2dOPPOSING~dSQUAREDdSHESHIGcLU3cLUGAL",
   "dOVER LUGALdOPPOSING~dSHESHIGcLUHcLULcLUMdOVER LUMfGAR OVER GARcMAdTIMES TAK4dGUNUcMA2cMAHcMAR",
   "cMASHcMASH2cMEcMEScMIcMINcMUdOVER MUcMUGdGUNUcMUNSUBcMURGU2cMUSHdTIMES AeKUReZAdOVER MUSH",
   "fTIMES A PLUS NAdCROSSING MUSHcMUSH3dTIMES AfPLUS DIe~dGUNUcNAcNA2cNAGAdINVERTED",
   "dTIMES SHU TENUdOPPOSING NAGAcNAGARcNAM NUTILLUdcNAM2cNEdTIMES AeUDdSHESHIGcNIdTIMES EcNI2cNIM",
   "dTIMES GAN2 TENUeGAR PLUS~~cNINDA2dTIMES ANeASHfPLUS ASHeGUDeME PLUS GAN2 TENUeNEeNUNeSHE",
   "fPLUS A ANgASHhPLUS ASHeU2~~eUSHcNISAGcNUcNU11cNUNdLAGAR TIMES GARfMASHfSAL",
   "gOVER NUN LAGAR TIMES SALfUSHdTENUdOVER NUNdCROSSING~fLAGAR OVER LAGARcNUNUZdAB2 TIMES ASHGAB",
   "fBIfDUGfGUDfIGI GUNUfKAD3fLAfNEfSILA3fU2dKISIM5 TIMES BIgUcPAcPADcPANcPAPcPESH2cPIdTIMES AeAB",
   "eBIeBUeEeIeIBeUeU2dCROSSING PIcPIRIGdTIMES KALeUDeZAdOPPOSING PIRIGcRAcRABcRIcRUcSA",
   "cSAG NUTILLUddTIMES AeDUeDUBeHAeKAKeKUReLUMeMIeNUNeSALeSHIDeTABeU2eUBeUMeUReUSHdOVER SAGdGUNU",
   "cSALdLAGAB TIMES ASH2cSANGA2cSARcSHAcSHA3dTIMES AeBADeGISHeNEeSHU2eTUReUfPLUS AcSHA6cSHAB6",
   "cSHAR2cSHEdHUdOVER SHE GAD OVER GAD GAR OVER GARfTAB OVER TAB~~~cSHEG9cSHENcSHESHcSHESH2",
   "cSHESHLAMcSHIDdTIMES AeIMcSHIMdTIMES AeBALeBULUGeDINeGAReIGIfGUNUeKUSHU2eLULeMUGeSALcSHINIG",
   "cSHIRdTENUdOVER SHIR BUR OVER BURcSHITAcSHUdOVER INVERTED SHUcSHU2cSHUBURcSIdGUNUcSIGcSIG4",
   "dOVER SIG4 SHU2cSIK2cSILA3cSUdOVER SUcSUDcSUD2cSUHURcSUMcSUMASHcSURcSUR9cTAdASTERISKdTIMES HI",
   "eMIdGUNUcTABdOVER TAB NI OVER NI DISH OVER DISHdSQUAREDcTAGdTIMES BIeGUDeSHEeSHUeTUG2eUDcTAK4",
   "cTARcTEdGUNUcTIdTENUcTILcTIRdTIMES TAK4dOVER TIRfGAD OVER GAD GAR OVER GARcTUcTUG2cTUKcTUMcTUR",
   "dOVER TUR ZA OVER ZAcUdGUDdU UdOVER U PA OVER PA GAR OVER GARfSUR OVER SUR",
   "fU REVERSED OVER U REVERSEDcU2cUBcUDdKUSHU2dTIMES BADeMIeU PLUS U PLUS UjGUNUd~dSHESHIG",
   "eTIMES BADcUDUGcUMdTIMES LAGABeME PLUS DAeSHA3eUcUMBINcUMUMdTIMES KASKALePAcUNdGUNUcUR",
   "dCROSSING URdSHESHIGcUR2dTIMES A PLUS HAgNAeALeHAeNUNeU2fPLUS ASHgBIcUR4cURIcURI3cURUdTIMES A",
   "eASHGABeBAReDUNeGAeGALeGAN2 TENUeGAReGUeHAeIGIeIMeISHeKIeLUMeMINePAeSHEeSIG4eTUeU PLUS GUDeUD",
   "eURUDAc~dTIMES UcUSHdTIMES AeKUeKUReTAK4cUSHXcUSH2cUSHUMXcUTUKIcUZ3dTIMES KASKALcUZUcZAdTENU",
   "dSQUARED TIMES KURcZAGcZAMXcZE2cZIdOVER ZIcZI3cZIBdKABA TENUcZIGcZIZ2cZUcZU5dTIMES AcZUBURcZUM",
   "cKAP ELAMITEcAB TIMES NUNcAB2 TIMES AcAMAR TIMES KUGcDAG KISIM5 TIMES U2 PLUS MASHcDAG3",
   "cDISH PLUS SHUcDUB TIMES SHEcEZEN TIMES GUDeSHEcGA2 TIMES AN PLUS KAK PLUS AeASH2cGE22cGIG",
   "cHUSHcKA TIMES ANSHEeASH3eGISHeGUDeHI TIMES ASH2eLUMePAeSHULeTUeUR2cLAGAB TIMES GI",
   "cLU2 SHESHIG TIMES BADdTIMES ESH2 PLUS LALeSHUcMESHcMUSH3 TIMES ZAcNA4cNINcNIN9",
   "cNINDA2 TIMES BALeGIcNU11 ROTATED NINETY DEGREEScPESH2 ASTERISKcPIR2cSAG TIMES IGI GUNUcTI2",
   "cUM TIMES MEcU U@12400bNUMERIC SIGN TWO ASHdTHREE~dFOUR~dFIVE~dSIX~dSEVEN~dEIGHT~dNINE~",
   "dTHREE DISHdFOUR~dFIVE~dSIX~dSEVEN~dEIGHT~dNINE~dFOUR UdFIVE~dSIX~dSEVEN~dEIGHT~dNINE~",
   "dONE GESH2dTWO~dTHREE~dFOUR~dFIVE~dSIX~dSEVEN~dEIGHT~dNINE~dONE GESHUdTWO~dTHREE~dFOUR~dFIVE~",
   "dTWO SHAR2dTHREE~fVARIANT FORMdFOUR SHAR2dFIVE~dSIX~dSEVEN~dEIGHT~dNINE~dONE SHARUdTWO~dTHREE~",
   "fVARIANT FORMdFOUR SHARUdFIVE~dSHAR2 TIMES GAL PLUS DISHhMINdONE BURUdTWO~dTHREE~fVARIANT FORM",
   "dFOUR BURUdFIVE~dTHREE VARIANT FORM ESH16gESH21dFOUR VARIANT FORM LIMMUgLIMMU4gLIMMU AhB",
   "dSIX VARIANT FORM ASH9dSEVEN VARIANT FORM IMIN3gIMIN AhBdEIGHT VARIANT FORM USSUgUSSU3",
   "dNINE VARIANT FORM ILIMMUgILIMMU3+1gILIMMU AdTWO ASH TENUdTHREE~~dFOUR~~dFIVE~~dSIX~~dONE BAN2",
   "dTWO~dTHREE~dFOUR~fVARIANT FORMdFIVE BAN2fVARIANT FORMdNIGIDAMINdNIGIDAESHdONE ESHE3dTWO~",
   "dONE THIRD DISHdTWO THIRDS~dFIVE SIXTHS~dONE THIRD VARIANT FORM AdTWO THIRDS~~~dONE EIGHTH ASH",
   "eQUARTER~dOLD ASSYRIAN ONE SIXTHgQUARTERdONE QUARTER GUReHALF~dELAMITE ONE THIRDeTWO THIRDS",
   "eFORTYeFIFTYdFOUR U VARIANT FORMdFIVE~~~dSIX~~~dSEVEN~~~dEIGHT~~~dNINE~~~@12470",
   "bPUNCTUATION SIGN OLD ASSYRIAN WORD DIVIDERdVERTICAL COLONdDIAGONAL~eTRICOLONeQUADCOLON@12480",
   "bSIGN AB TIMES NUN TENUeSHU2cAD TIMES ESH2cBAD TIMES DISH TENUcBAHAR2 TIMES AB2eNIeZA",
   "cBU OVER BU TIMES NA2cDA TIMES TAK4cDAG TIMES KURcDIM TIMES IGIeU U UcDIM2 TIMES UD",
   "cDUG TIMES ANSHEeASHfAT LEFTeDINeDUNeERIN2eGAeGIeGIR2 GUNUeGISHeHAeHIeIGI GUNUeKASKALeKUR",
   "eKUSHU2fPLUS KASKALeLAK-020eLAMfTIMES KUReLUH PLUS GISHeMASHeMESeMIeNIePIeSHEeSI GUNU",
   "cE2 TIMES KURePAPcERIN2 XcESH2 CROSSING ESH2cEZEN SHESHIG TIMES ASHfHIfIGI GUNUfLAfLALfMEfMES",
   "fSUd~~cGA2 TIMES BAHAR2eDIM GUNUeDUG TIMES IGI~gKASKALeERENeGAeGAR PLUS DIgNEeHA PLUS A",
   "eKUSHU2 PLUS KASKALeLAMfTIMES KUReLUHeMUSHeNEfPLUS E2gGIeSHIMeZIZ2cGABA ROTATED NINETY DEGREES",
   "cGESHTIN TIMES UcGISH TIMES GISH CROSSING GISHcGU2 TIMES IGI GUNUcGUD PLUS GISH TIMES TAK4",
   "cHA TENU GUNUcHI TIMES ASH OVER HI TIMES ASHcKA TIMES BUeKAeU U UeURcLAGAB TIMES ZU OVER ZU",
   "cLAK-003cLAK-021cLAK-025cLAK-030cLAK-050+1cLAK-062cLAK-079 OVER LAK-079 GUNUcLAK-080",
   "cLAK-081 OVER LAK-081cLAK-092cLAK-130cLAK-142cLAK-210cLAK-219+1cLAK-225cLAK-228cLAK-238",
   "cLAK-265+1cLAK-343cLAK-347+1cLAK-383+1cLAK-390cLAK-441cLAK-449dTIMES GUeIGIePAP PLUS LU3",
   "gPAP PLUS~eU2 PLUS BAcLAK-450cLAK-457cLAK-470cLAK-483cLAK-490cLAK-492+1cLAK-495cLAK-550",
   "cLAK-608cLAK-617dTIMES ASHeBADeDUN3 GUNU GUNUeKU3eLAeTAReTEeU2eUDeURUDAcLAK-636cLAK-648",
   "dTIMES DUBeGAeIGIfGUNUeNIePAP PLUS PAP PLUS LU3eSHESH PLUS KIeUDeURUDAcLAK-724cLAK-749",
   "cLU2 GUNU TIMES ASHdTIMES DISHeHALePAPfPLUS PAP PLUS LU3eTAK4cMI PLUS ZA7",
   "cMUSH OVER MUSH TIMES GAgKAKcNINDA2 TIMES DIM GUNUeGISHeGULeHIeKESH2eLAK-050eMASHePAP PLUS PAP",
   "eUfPLUS UeURUDAcSAG GUNU TIMES HAdTIMES ENeSHE AT LEFTeTAK4cSHA6 TENUcSHE OVER SHEdPLUS HUB2",
   "eNAM2eSARcSHU2 PLUS DUG TIMES NIeE2 TIMES ANcSI TIMES TAK4cTAK4 PLUS SAGcTUM TIMES GAN2 TENU",
   "eTHREE DISHcUR2 INVERTEDdTIMES UDcURU TIMES DARA3eLAK-668eLU3cZA7cZU OVER ZU PLUS SAR",
   "cZU5 TIMES THREE DISH TENU@12F90aCYPRO-MINOAN SIGN CM001+1cCM004+8cCM012BcCM013cCM015cCM017",
   "cCM019cCM021cCM023+7cCM033+8cCM044cCM046+1cCM049+7cCM058+6cCM066+9cCM075BcCM076cCM078+14cCM094",
   "+11cCM107+3cCM112cCM114cCM301+1@13000aEGYPTIAN HIEROGLYPH A001+4cA005AcA006cA006AcA006BcA007+7",
   "cA014AcA015+2cA017AcA018+14cA032AcA033+7cA040AcA041+1cA042AcA043cA043AcA044+1cA045AcA046+24",
   "cB001+4cB005AcB006+3cC001+1cC002AcC002BcC002CcC003+7cC010AcC011+13cD001+7cD008AcD009+18cD027A",
   "cD028+3cD031AcD032+2cD034AcD035+11cD046AcD047+1cD048AcD049+1cD050AcD050BcD050CcD050DcD050E",
   "cD050FcD050GcD050HcD050IcD051+1cD052AcD053+1cD054AcD055+12cD067AcD067BcD067CcD067DcD067EcD067F",
   "cD067GcD067HcE001+7cE008AcE009cE009AcE010+6cE016AcE017cE017AcE018+2cE020AcE021+7cE028AcE029+5",
   "cE034AcE036+2cF001cF001AcF002+11cF013AcF014+7cF021AcF022+9cF031AcF032+5cF037AcF038cF038AcF039",
   "+6cF045AcF046cF046AcF047cF047AcF048+3cF051AcF051BcF051CcF052+1cG001+5cG006AcG007cG007AcG007B",
   "cG008+3cG011AcG012+8cG020AcG021+5cG026AcG027+9cG036AcG037cG037AcG038+5cG043AcG044+1cG045AcG046",
   "+8cH001+5cH006AcH007+1cI001+4cI005AcI006+3cI009AcI010cI010AcI011cI011AcI012+3cK001+7cL001+1",
   "cL002AcL003+3cL006AcL007+1cM001cM001AcM001BcM002+1cM003AcM004+6cM010AcM011+1cM012AcM012BcM012C",
   "cM012DcM012EcM012FcM012GcM012HcM013+2cM015AcM016cM016AcM017cM017AcM018+4cM022AcM023+1cM024A",
   "cM025+3cM028AcM029+2cM031AcM032+1cM033AcM033BcM034+6cM040AcM041+3cN001+17cN018AcN018BcN019+6",
   "cN025AcN026+7cN033AcN034cN034AcN035cN035AcN036+1cN037AcN038+4cNL001+4cNL005AcNL006+11cNL017A",
   "cNL018+2cNU001+9cNU010AcNU011cNU011AcNU012+6cNU018AcNU019+3cNU022AcO001cO001AcO002+3cO005A",
   "cO006cO006AcO006BcO006CcO006DcO006EcO006FcO007+3cO010AcO010BcO010CcO011+8cO019AcO020cO020A",
   "cO021+3cO024AcO025cO025AcO026+3cO029AcO030cO030AcO031+2cO033AcO034+2cO036AcO036BcO036CcO036D",
   "cO037+13cO050AcO050BcO051cP001cP001AcP002+1cP003AcP004+7cQ001+6cR001+1cR002AcR003cR003AcR003B",
   "cR004+6cR010AcR011+5cR016AcR017+12cS001+1cS002AcS003+3cS006AcS007+7cS014AcS014BcS015+2cS017A",
   "cS018+8cS026AcS026BcS027+8cS035AcS036+10cT001+2cT003AcT004+3cT007AcT008cT008AcT009cT009AcT010",
   "+1cT011AcT012+4cT016AcT017+15cT032AcT033cT033AcT034+2cU001+5cU006AcU006BcU007+16cU023AcU024+5",
   "cU029AcU030+2cU032AcU033+9cV001cV001AcV001BcV001CcV001DcV001EcV001FcV001GcV001HcV001IcV002",
   "cV002AcV003+4cV007AcV007BcV008+3cV011AcV011BcV011CcV012cV012AcV012BcV013+7cV020AcV020BcV020C",
   "cV020DcV020EcV020FcV020GcV020HcV020IcV020JcV020KcV020LcV021+2cV023AcV024+4cV028AcV029cV029A",
   "cV030cV030AcV031cV031AcV032+1cV033AcV034+3cV037AcV038+2cV040AcW001+2cW003AcW004+5cW009AcW010",
   "cW010AcW011+3cW014AcW015+2cW017AcW018cW018AcW019+5cW024AcW025cX001+3cX004AcX004BcX005+1cX006A",
   "cX007+1cX008AcY001cY001AcY002+6cZ001+1cZ002AcZ002BcZ002CcZ002DcZ003cZ003AcZ003BcZ004cZ004A",
   "cZ005cZ005AcZ006+9cZ015AcZ015BcZ015CcZ015DcZ015EcZ015FcZ015GcZ015HcZ015IcZ016cZ016AcZ016B",
   "cZ016CcZ016DcZ016EcZ016FcZ016GcZ016HcAA001+6cAA007AcAA007BcAA008+24cV011DcVERTICAL JOINER",
   "cHORIZONTAL~cINSERT AT TOP STARTeBOTTOM~eTOP ENDeBOTTOM~cOVERLAY MIDDLEcBEGIN SEGMENTcEND~",
   "cINSERT AT MIDDLEeTOPeBOTTOMcBEGIN ENCLOSUREcEND~cBEGIN WALLED~cEND~~cMIRROR HORIZONTALLY",
   "cFULL BLANKcHALF~cLOST SIGNcHALF~~cTALL~~cWIDE~~cMODIFIER DAMAGED AT TOP STARTfBOTTOM~f~",
   "fTOP ENDgfBOTTOM START AND TOP ENDfSTART AND TOPfBOTTOM ENDfTOP START AND~~fBOTTOMfSTART AND~",
   "fENDfTOP AND~fBOTTOM~~e@14400aANATOLIAN HIEROGLYPH A001+9cA010AcA011+15cA026AcA027+12cA039A",
   "cA040+1cA041AcA042+3cA045AcA046cA046AcA046BcA047+19cA066AcA066BcA066CcA067+30cA097AcA098cA098A",
   "cA099+1cA100AcA101cA101AcA102cA102AcA103+1cA104AcA104BcA104CcA105cA105AcA105BcA106+1cA107A",
   "cA107BcA107CcA108+2cA110AcA110BcA111+4cA115AcA116+9cA125AcA126+9cA135AcA136+66cA202AcA202B",
   "cA203+4cA207AcA208+1cA209AcA210+5cA215AcA216cA216AcA217+10cA227AcA228+39cA267AcA268+21cA289A",
   "cA290+4cA294AcA295+4cA299AcA300+9cA309AcA310+19cA329AcA330+1cA332AcA332BcA332CcA333+3cA336A",
   "cA336BcA336CcA337+22cA359AcA360+4cA364AcA365+3cA368AcA369+2cA371AcA372+9cA381AcA382",
   "cA383 RA OR RIcA383AcA384+2cA386AcA387+5cA393 EIGHTcA394+15cA410 BEGIN LOGOGRAM MARK",
   "cA410A END~~cA411+39cA450AcA451+6cA457AcA458+39cA501+29@16800aBAMUM LETTER PHASE-A NGKUE MFON",
   "dGBIEE FONdPON MFON PIPAEMGBIEEfPIPAEMBAdNAA MFONdSHUENSHUETdTITA MFONdNZA~dSHINDA PA NJI",
   "dPON PA NJI PIPAEMGBIEEgPIPAEMBAdMAEMBGBIEEdTU MAEMBAdNGANGUdMAEMVEUXdMANSUAEdMVEUAENGAM",
   "dSEUNYAMdNTOQPENdKEUKEUTNDAdNKINDIdSUUdNGKUENZEUMdLAPAQdLET KUTdNTAP MFAAdMAEKEUPdPASHAE",
   "dGHEUAERAEdPAMSHAEdMON NGGEUAETdNZUN MEUTdU YUQ NAEdGHEUAEGHEUAEdNTAP NTAAdSISAdMGBASA",
   "dMEUNJOMNDEUQdMOOMPUQdKAFAdPA LEERAEWAdNDA~dPETdMAEMKPENdNIKAdPUPdTUAEPdLUAEPdSONJAMdTEUTEUWEN",
   "dMAENYIdKETdNDAANGGEUAETdKUOQdMOOMEUTdSHUMdLOMMAEdFIRIdROMdKPOQdSOQdMAP PIEETdSHIRAEdNTAP",
   "dSHOQ NSHUT YUMdNYIT MONGKEUAEQdPAARAEdNKAARAEdUNKNOWNdNGGENdMAESIdNJAMdMBANYIdNYETdTEUAENdSOT",
   "dPAAMdNSHIEEdMAEMdNYIdKAQdNSHAdVEEdLUdNENdNAQdMBAQcPHASE-B NSHUETdTU MAEMGBIEEdSIEEdSET TU",
   "dLOM NTEUMdMBA MAELEEdKIEEMdYEURAEdMBAARAEdKAMdPEESHIdYAFU LEERAEWAdLAM NSHUT NYAM",
   "dNTIEE SHEUOQdNDU NJAAdGHEUGHEUAEMdPITdTU NSIEEdSHET NJAQdSHEUAEQTUdMFON TEUAEQdMBIT MBAAKET",
   "dNYI NTEUMdKEUPUQdGHEUGHENdKEUYEUXdLAANAEdPARUMdVEUMdNGKINDI MVOPdNGGEU MBUdWUAETdSAKEUAEdTAAM",
   "dMEUQdNGGUOQeLARGEdMFIYAQdSUEdMBEURIdMONTIEENdNYAEMAEdPUNGAAMdMEUT NGGEETdFEUXdMBUOQdFEE",
   "dKEUAEMdMA NJEUAENAeNJUQAdLETdNGGAAMdNSENdMAdKIQdNGOMcPHASE-C NGKUE MAEMBAdNZAdYUMdWANGKUOQ",
   "dNGGENdNDEUAEREEdNGKAQdGHARAEdMBEEKEETdGBAYIdNYIR MKPARAQ MEUNdNTU MBITdMBEUMdPIRIEENdNDOMBU",
   "dMBAA CABBAGE-TREEdKEUSHEUAEPdGHAPdKEUKAQdYU MUOMAEdNZEUMdMBUEdNSEUAENdMBITdYEUQdKPARAQdKAA",
   "dSEUXdNDIDAdTAASHAEdNJUEQdTITA YUEdSUAETdNGGUAEN NYAMdVEUXdNANSANAQdMA KEUAERIdNTAAdNGGUONdLAP",
   "dMBIRIEENdMGBASAQdNTEUNGBAdTEUTEUXdNGGUMdFUEdNDEUTdNSAdNSHAQdBUNGdVEUAEPENdMBERAEdRUdNJAEMdLAM",
   "dTITUAEPdNSUOT NGOMdNJEEEEdKETdNGGUdMAESIdMBUAEMdLUdKUTdNJAMdNGOMdWUPdNGGUEETdNSOMdNTEN",
   "dKUOP NKAARAEdNSUNdNDAMdMA NSIEEdYAAdNDAPdSHUEQdSETFONdMBIdMAEMBAdMBANYIdKEUSEUXdMBEUXdKEUM",
   "dMBAA PICKETdYUWOQdNJEUXdMIEEdMUAEdSHIQdKEN LAWeFATIGUEdNGAQdNAQdLIQdPINdPENdTETcPHASE-D MBUO",
   "dWAPdNJIdMFONdNJIEEdLIEEdNJEUTdNSHEEdNGGAAMAEdNYAMdWUAENdNGKUNdSHEEdNGKAPdKEUAETMEUNdTEUT",
   "dSHEUAEdNJAPdSUEdKETdYAEMMAEdKUOMdSAPdMFEUTdNDEUXdMALEERIdMEUTdSEUAEQdYENdNJEUAEMdKEUOT MBUAE",
   "dNGKEURIdTUdGHAAdNGKYEEdFEUFEUAETdNDEEdMGBOFUMdLEUAEPdNDONdMONIdMGBEUNdPUUTdMGBIEEdMFOdLUM",
   "dNSIEEPdMBAAdKWAETdNYETdTEUAENdSOTdYUWOQdKEUMdRAEMdTEEEEdNGKEUAEQdMFEUAEdNSIEETdKEUPdPIP",
   "dPEUTAEdNYUEdLETdNGGAAMdMFIEEdNGGWAENdYUOMdPAPdYUOPdNDAMdNTEUMdSUAEdKUNdNGGEUXdNGKIEEdTUOT",
   "dMEUNdKUQdNSUMdTEUNdMAENJETdNGGAPdLEUMdNGGUOMdNSHUTdNJUEQdGHEUAEdKUdREN OLDdTAEdTOQdNYIdRII",
   "dLEEEEdMEEEEdMdSUUdMUdSHIIdSHEUXdKYEEdNUdSHUdNTEEdPEEdNIdSHOQdPUQdMVOPdLOQdREN MUCHdTIdNTUU",
   "dMBAA SEVENdSAQdFAAcPHASE-E NDAPdTOONdMBEUMdLAPdVOMdLOONdPAAdSOMdRAQdNSHUOPdNDUNdPUAEdTAMdNGKA",
   "dKPEUXdWUOdSEEdNGGEUAETdPAAMdTOOdKUOPdLOMdNSHIEEdNGOPdMAEMdNGKEUXdNGOQdNSHUEdRIMGBAdNJEUXdPEEM",
   "dSAAdNGGURAEdMGBAdGHEUXdNGKEUAEMdNJAEMLIdMAPdLOOTdNGGEEEEdNDIQdTAEN NTEUMdSETdPUM",
   "dNDAA SOFTNESSdNGGUAESHAE NYAMdYIEEdGHEUNdTUAEdYEUAEdPOdTUMAEdKEUAEdSUAENdTEUAEQdVEUAEdWEUX",
   "dLAAMdPUdTAAQdGHAAMAEdNGEUREUTdSHEUAEQdMGBENdMBEEdNZAQdNKOMdGBETdTUMdKUETdYAPdNYI CLEAVERdYIT",
   "dMFEUQdNDIAQdPIEEQdYUEQdLEUAEMdFUEdGBEUXdNGKUPdKETdMAEdNGKAAMIdGHETdFAdNTUMdPEUTdYEUMdNGGEUAE",
   "dNYI BETWEENdNZUQdPOONdMIEEdFUETdNAEdMUAEdGHEUAEdFU IdMVIdPUAQdNGKUMdKUTdPIETdNTAPdYEUAET",
   "dNGGUPdPA PEOPLEdFU CALLdFOMdNJEEdAdTOQdOdIdLAQdPA PLURALdTAAdTAQdNDAA MY HOUSEdSHIQdYEUX",
   "dNGUAEdYUAENdYOQ SWIMMINGeCOVERdYUQdYUNdKEUXdPEUXdNJEE EPOCHdPUEdWUEdFEEdVEEdLUdMIdREUXdRAE",
   "dNGUAETdNGAdSHOdSHOQdFU REMEDYdNAdPIdLOQdKOdMENdMAdMAQdTEUdKIdMONdTENdFAQdGHOMcPHASE-F KAdUdKU",
   "dEEdREEdTAEdNYIdLAdRIIdRIEEdMEEEEdTAAdNDAAdNJAEMdMdSUUdSHIIdSIdSEUXdKYEEdKETdNUAEdNUdNJUAEdYOQ",
   "dSHUdYAdNSHAdPEUXdNTEEdWUEdPEEdRUdNIdREUXdKENdNGKWAENdNGGAdSHOdPUAEdFOMdWAdLIdLOQdKOdMBENdREN",
   "dMAdMOdMBAAdTETdKPAdSAMBAdVUEQ@16A40aMRO LETTER TAcNGIcYOcMIMcBAcDAcAcPHIcKHAIcHAOcDAIcCHU",
   "cKEAAEcOLcMAEMcNINcPAcOOcOcROcSHIcTHEAcEAcWAcEcKOcLANcLAcHAIcRIcTEK@16A60bDIGIT ZEROcONEcTWO",
   "cTHREEcFOURcFIVEcSIXcSEVENcEIGHTcNINE@16A6EbDANDAbDOUBLE~aTANGSA LETTER OZcOCcOQcOXcAZcACcAQ",
   "cAXcVZcVCcVQcVXcEZcECcEQcEXcIZcICcIQcIXcUZcUCcUQcUXcAWZcAWCcAWQcAWXcUIZcUICcUIQcUIXcFINAL NG",
   "cLONG UEXcSHORT UEZdAWXcUECcUEZcUEQcUEXcUIUZcUIUCcUIUQcUIUXcMZcMCcMQcMXcKAcKHAcGAcNGAcSAcYAcWA",
   "cPAcNYAcPHAcBAcMAcNAcHAcLAcHTAcTAcDAcRAcNHAcSHAcCAcTSAcGHAcHTTAcTHAcXAcFAcDHAcCHAcZA@16AC0",
   "bDIGIT ZEROcONEcTWOcTHREEcFOURcFIVEcSIXcSEVENcEIGHTcNINE@16AD0aBASSA VAH LETTER ENNIdKAdSEdFA",
   "dMBEdYIEdGAHdDHIIdKPAHdJOdHWAHdWAdZOdGBUdDOdCEdUWUdTOdBAdVUdYEINdPAdWADDAdAdOdOOdUdEEdEdI",
   "@16AF0cCOMBINING HIGH TONEdLOW~dMID~dLOW-MID~dHIGH-LOW~cFULL STOP@16B00",
   "aPAHAWH HMONG VOWEL KEEBdKEEVdKIBdKIVdKAUBdKAUVdKUBdKUVdKEBdKEVdKAIBdKAIVdKOOBdKOOVdKAWBdKAWV",
   "dKUABdKUAVdKOBdKOVdKIABdKIAVdKABdKAVdKWBdKWVdKAABdKAAVcCONSONANT VAUdNTSAUdLAUdHAUdNLAUdRAU",
   "dNKAUdQHAUdYAUdHLAUdMAUdCHAUdNCHAUdHNAUdPLHAUdNTHAUdNAUdAUdXAUdCAUcMARK CIM TUBeSOeKESeKHAV",
   "eSUAMeHOMeTAUMcSIGN VOS THOMeTSHAB CEEBdCIM CHEEMdVOS THIABeFEEMdXYEEM NTXIVeRHOeTOVeFAIB",
   "dVOS SEEVdMEEJ SUABdVOS NRUAdIB YAMdXAUSdCIM TSOV ROG@16B50cDIGIT ZEROdONEdTWOdTHREEdFOURdFIVE",
   "dSIXdSEVENdEIGHTdNINE@16B5BcNUMBER TENSdHUNDREDSdTEN THOUSANDSdMILLIONSdHUNDRED~dTEN BILLIONS",
   "dTRILLIONS@16B63cSIGN VOS LUBdXYOOdHLIdTHIRD-STAGE~dZWJ THAJdHNUBdNQIGdXIABdNTUJdAV",
   "dTXHEEJ CEEVdMEEJ TSEEBdTAUdLOSdMUSdCIM HAIS LUS NTOG NTOGeCUAM TSHOOJeTXWVfCHWVePUB DAWB",
   "eNRES TOS@16B7DcCLAN SIGN TSHEEJeYEEGeLISeLAUJeXYOOJeKOOeHAWJeMUASeTHOJeTSABePHABeKHABeHAMeVAJ",
   "eFAJeYAJeTSWBeKWMeVWJ@16E40aMEDEFAIDRIN CAPITAL LETTER MdSdVdWdATIUdZdKPdPdTdGdFdIdKdAdJdEdBdC",
   "dUdYUdLdQdHPdNYdXdDdOEdNdRdOdAIdYbSMALL LETTER MdSdVdWdATIUdZdKPdPdTdGdFdIdKdAdJdEdBdCdUdYUdL",
   "dQdHPdNYdXdDdOEdNdRdOdAIdYbDIGIT ZEROcONEcTWOcTHREEcFOURcFIVEcSIXcSEVENcEIGHTcNINEbNUMBER TEN",
   "cELEVENcTWELVEcTHIRTEENcFOURTEENcFIFTEENcSIXTEENcSEVENTEENcEIGHTEENcNINETEEN",
   "bDIGIT ONE ALTERNATE FORMcTWO~~cTHREE~~bCOMMAbFULL STOPbSYMBOL AIVAbEXCLAMATION OH@16F00",
   "aMIAO LETTER PAcBAcYI PAcPLAcMAcMHAcARCHAIC MAcFAcVAcVFAcTAcDAcYI TTAdTAcTTAcDDAcNAcNHAcYI NNA",
   "cARCHAIC NAcNNAcNNHAcLAcLYAcLHAcLHYAcTLHAcDLHAcTLHYAcDLHYAcKAcGAcYI KAcQAcQGAcNGAcNGHA",
   "cARCHAIC NGAcHAcXAcGHAcGHHAcTSSAcDZZAcNYAcNYHAcTSHAcDZHAcYI TSHAdDZHAcREFORMED TSHAcSHAcSSA",
   "cZHAcZSHAcTSAcDZAcYI TSAcSAcZAcZSAcZZAcZZSAcARCHAIC ZZAcZZYAcZZSYAcWAcAHcHHAcBRIcSYIcDZYIcTE",
   "cTSEcRTE@16F4FbSIGN CONSONANT MODIFIER BARbLETTER NASALIZATIONbSIGN ASPIRATION",
   "cREFORMED VOICINGdASPIRATIONbVOWEL SIGN AdAAdAHHdANdANGdOdOOdWOdWdEdENdENGdOEYdIdIAdIANdIANG",
   "dIOdIEdIIdIUdINGdUdUAdUANdUANGdUUdUEIdUNGdYdYIdAEdAEEdERRdROUNDED~dERdROUNDED~dAIdEIdAUdOUdN",
   "dNGdUOGdYUIdOGdOERdVWdIGdEAdIONGdUI@16F8FbTONE RIGHTcTOP~cABOVEcBELOWbLETTER TONE-2+6",
   "cREFORMED TONE-1+1dTONE-4+2dTONE-8@16FE0aTANGUT ITERATION MARKaNUSHU~~aOLD CHINESE HOOK~",
   "cITERATION~aKHITAN SMALL SCRIPT FILLER@16FF0aVIETNAMESE ALTERNATE READING MARK CAeNHAY@18800",
   "aTANGUT COMPONENT-001+767@1AFF0aKATAKANA LETTER MINNAN TONE-2+3@1AFF5dTONE-7+1",
   "dNASALIZED TONE-1+4@1AFFDeTONE-7+1@1B000cARCHAIC EaHIRAGANA LETTER ARCHAIC YE",
   "aHENTAIGANA LETTER A-1+2cA-WOcI-1+3cU-1+4cE-2+4cO-1+2cKA-1+10cKA-KEcKI-1+7cKU-1+6cKE-1+5cKO-1",
   "+2cKO-KIcSA-1+7cSI-1+5cSU-1+7cSE-1+4cSO-1+6cTA-1+3cTI-1+6cTU-1+3cTU-TOcTE-1+8cTO-1+5cTO-RA",
   "cNA-1+8cNI-1+6cNI-TEcNU-1+2cNE-1+5cNE-KOcNO-1+4cHA-1+10cHI-1+6cHU-1+2cHE-1+6cHO-1+7cMA-1+6",
   "cMI-1+6cMU-1+3cME-1+1cME-MAcMO-1+5cYA-1+4cYA-YOcYU-1+3cYO-1+5cRA-1+3cRI-1+6cRU-1+5cRE-1+3cRO-1",
   "+5cWA-1+4cWI-1+4cWE-1+3cWO-1+6cN-MU-MO-1+1aHIRAGANA LETTER ARCHAIC WU",
   "aKATAKANA LETTER ARCHAIC YIdYEdWU@1B132aHIRAGANA LETTER SMALL KO@1B150dWIdWEdWO@1B155",
   "aKATAKANA LETTER SMALL KO@1B164dWIdWEdWOdN@1BC00aDUPLOYAN LETTER HcXcPcTcFcKcLcBcDcVcGcRcP N",
   "cD ScF NcK McR ScTHcSLOAN DHc~cKKcSLOAN JcHLcLHcRHcMcNcJcScM NcN McJ~cS JcM WITH DOTcN~~cJ~~",
   "eDOTS INSIDE AND ABOVEcS WITH DOTfBELOWcM ScN~cJ~cS~cM N~cN M~cJ~~cS J~cJ S WITH DOTdNeScS TeR",
   "dPeRcT SdR~cWcWHcW RcS NdMcK R ScG~~cS KeRcAcSLOAN OWcOAcOcAOUcIcEcIEcSHORT IcUIcEEcSLOAN EH",
   "cROMANIAN IcSLOAN EEcLONG IcYEcUcEUcXWcU NcLONG UcROMANIAN~cUHcSLOAN UcOOHcOWcOUcWAcWOcWIcWEI",
   "cWOWcNASAL UdOdIdAcPERNIN ANdAMcSLOAN ENdANdONcVOCALIC M@1BC70bAFFIX LEFT HORIZONTAL SECANT",
   "cMID~~cRIGHT~~cLOW VERTICAL~cMID~~cHIGH~~cATTACHED~dLEFT-TO-RIGHT~dTANGENTdTAILdE HOOKdI~",
   "dTANGENT~@1BC80cHIGH ACUTEdTIGHT~dGRAVEdLONG~dDOTdCIRCLEdLINEdWAVEdVERTICAL@1BC90cLOW ACUTE",
   "dTIGHT~dGRAVEdLONG~dDOTdCIRCLEdLINEdWAVEdVERTICALdARROW@1BC9CbSIGN O WITH CROSS",
   "bTHICK LETTER SELECTORbDOUBLE MARKbPUNCTUATION CHINOOK FULL STOP",
   "aSHORTHAND FORMAT LETTER OVERLAPcCONTINUING~cDOWN STEPcUP~@1CF00",
   "aZNAMENNY COMBINING MARK GORAZDO NIZKO S KRYZHEM ON LEFTd~~~~~dTSATA~~dGORAZDO NIZKO~~d~~~",
   "dSREDNE~~dMALO POVYSHE~~d~~~dVYSOKO~~dMALO POVYSHE S KHOKHLOM~~d~~~~~dVYSOKO~~~~",
   "dGORAZDO NIZKO S KRYZHEM ON RIGHTd~~~~~dTSATA~~dGORAZDO NIZKO~~d~~~dSREDNE~~dMALO POVYSHE~~",
   "d~~~dVYSOKO~~dMALO POVYSHE S KHOKHLOM~~d~~~~~dVYSOKO~~~~dTSATA S KRYZHEMdMALO POVYSHE~~",
   "dSTRANNO MALO POVYSHEdPOVYSHE S KRYZHEMeSTRANNOdVYSOKO S KRYZHEMdMALO POVYSHE STRANNO",
   "dGORAZDO VYSOKOdZELOdONdRAVNOdTIKHAYAdBORZAYAdUDARKAdPODVERTKAdLOMKAdKUPNAYAdKACHKAdZEVOK",
   "dSKOBAdRAZSEKAdKRYZH ON LEFT@1CF30cTONAL RANGE MARK MRACHNOfSVETLOfTRESVETLOcMARK ZADERZHKA",
   "dDEMESTVENNY~dOTSECHKAdPODCHASHIEeWITH VERTICAL STROKEdCHASHKAePOLNAYAdOBLACHKO",
   "dSOROCHYA NOZHKAdTOCHKAdDVOETOCHIEcATTACHING VERTICAL OMETcMARK CURVED~dKRYZH",
   "cLOWER TONAL RANGE INDICATORbPRIZNAK MODIFIER LEVEL-2+1dDIRECTION FLIPdKRYZHdROG@1CF50",
   "bNEUME KRYUKdTIKHYcPARAKLITcDVA V CHELNUcKLYUCHcZANOZHEKcSTOPITSAdS OCHKOMcPEREVODKA",
   "dNEPOSTOYANNAYAcSTOPITSA WITH SOROCHYA NOZHKAcCHELYUSTKAcPALKAcZAPYATAYAcGOLUBCHIK BORZYdTIKHY",
   "dMRACHNYdSVETLYdTRESVETLYcVRAKHIYA PROSTAYAdMRACHNAYAdSVETLAYAdTRESVETLAYA",
   "dKLYUCHEVAYA PROSTAYAeMRACHNAYAeSVETLAYAeTRESVETLAYAcDOUBLE ZAPYATAYAcREVERSED CHELYUSTKA",
   "cDERBITSAcKHAMILOcCHASHKAcPODCHASHIEcSKAMEYTSA MRACHNAYAdSVETLAYAdTRESVETLAYAdTIKHAYA",
   "cDEMESTVENNY KLYUCHcSKAMEYTSA KLYUCHEVAYA SVETLAYAdKLYUCHENEPOSTOYANNAYAdKLYUCHEVAYA TIKHAYA",
   "dDVOECHELNAYA PROSTAYAeSVETLAYAeNEPOSTOYANNAYAeKLYUCHEVAYAcSLOZHITIEdS ZAPYATOYdZAKRYTOE",
   "dS KRYZHEMcKRYZHcROGcFITAcKOBYLAcZMEYTSAcSTATYAdS ZAPYATOYeKRYZHEMeZAPYATOY I~",
   "eKRYZHEM I ZAPYATOYdZAKRYTAYAeS ZAPYATOYdS ROGOMeDVUMYA ZAPYATYMIeZAPYATOY I PODCHASHIEM",
   "cPOLKULIZMYcSTATYA NEPOSTOYANNAYAcSTRELA PROSTAYAdMRACHNOTIKHAYAdKRYZHEVAYAdPOLUPOVODNAYA",
   "dPOVODNAYAdNEPOSTOYANNAYAdKLYUCHEPOVODNAYAdKLYUCHENEPOSTOYANNAYAdTIKHAYA PUTNAYAdDVOECHELNAYA",
   "dDVOECHELNOKRYZHEVAYAdDVOECHELNOPOVODNAYAdDVOECHELNAYA KLYUCHEVAYAdDVOECHELNOPOVODNAYA~",
   "dGROMNAYA WITH SINGLE ZAPYATAYAdGROMOPOVODNAYA~~~dGROMNAYAdGROMOPOVODNAYA",
   "eWITH DOUBLE ZAPYATAYAdGROMOKRYZHEVAYAePOVODNAYAcMECHIKdPOVODNYdKLYUCHEVOYdKLYUCHEPOVODNY",
   "dKLYUCHENEPOSTOYANNYcSTRELA TRYASOGLASNAYAdTRYASOPOVODNAYAdTRYASOSTRELNAYAcOSOKAdSVETLAYA",
   "dTRESVETLAYAdKRYUKOVAYA SVETLAYAdKLYUCHEVAYA~eNEPOSTOYANNAYAcSTRELA KRYUKOVAYAePOVODNAYA",
   "eGROMNAYA WITH SINGLE ZAPYATAYAeGROMOPOVODNAYA~~~eGROMNAYAeGROMOPOVODNAYA",
   "fWITH DOUBLE ZAPYATAYAeGROMOKRYZHEVAYAfPOVODNAYAeTRYASKAcKUFISMAcOBLAKOcDUDAcNEMKAcPAUK"]

end ClassSchema.Text.CharacterName
